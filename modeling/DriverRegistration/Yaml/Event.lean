import DriverRegistration.Yaml.Tokens

/-!
# Events of a YAML document

The structure of a document as a sequence of events: scalars, aliases, and the begins and ends of
sequences and mappings.  A `Parse` is a document of which some events are read.  It knows what is
open, the innermost first, and each `Frame` says what may come next there.  `Parse.next?` reads one
event.
-/

namespace DriverRegistration.Yaml

/-- What an event tells. -/
inductive EventKind where
  | scalar (text : String) (plain : Bool)
  | sequence
  | sequenceEnd
  | mapping
  | mappingEnd
  /-- The value of an anchor once more. -/
  | reference (anchor : Nat)
  deriving DecidableEq, Repr

/-- An event, where its value begins, and what is said about the value. -/
structure Event where
  kind : EventKind
  mark : Mark
  anchor : Option Nat := none
  tag : Option (List UInt8) := none
  deriving DecidableEq, Repr

/-- What is open, and what may come next in it. -/
inductive Frame where
  /-- The value of a document, which may be left out after a mark. -/
  | root (marked : Bool)
  | blockItem (start : Mark)
  /-- An item of a sequence that is not indented further than its key. -/
  | bareItem
  | blockKey (start : Mark)
  | blockValue (start : Mark)
  | flowItem (start : Mark) (first : Bool)
  /-- The key of a mapping of a single member. -/
  | pairKey
  | pairValue
  | pairEnd
  | flowKey (start : Mark) (first : Bool)
  | flowValue (start : Mark)
  /-- A value that is left out together with its colon. -/
  | noFlowValue (start : Mark)
  deriving DecidableEq, Repr

/-- A document of which some events are read. -/
structure Parse where
  tokens : Tokens
  /-- What each handle of a tag stands for. -/
  handles : List (String × List UInt8) := []
  /-- The number of the last anchor of each name. -/
  anchors : List (String × Nat) := []
  /-- What is open, the innermost first. -/
  frames : List Frame := []

namespace Parse

/-- The next token. -/
def head (p : Parse) : Except Fault (Token × Parse) :=
  p.tokens.head.map fun (k, tokens) => (k, { p with tokens })

/-- Pass over a token. -/
def take (p : Parse) : Parse := { p with tokens := p.tokens.take }

/-- With something open besides. -/
def under (p : Parse) (f : Frame) : Parse := { p with frames := f :: p.frames }

/-- A value that is left out. -/
def missing (m : Mark) : Event := { kind := .scalar "" true, mark := m }

/-! ## Values -/

/-- What is said about a value before it. -/
structure Properties where
  /-- Where the value with its properties begins. -/
  start : Mark
  anchor : Option String := none
  tag : Option (Tag × Mark) := none

/-- Read the anchor and the tag of a value, which stand in either order. -/
def properties (p : Parse) : Except Fault (Properties × Parse) := do
  let (k, p) ← p.head
  match k.kind with
  | .anchor name =>
    let (next, p) ← p.take.head
    match next.kind with
    | .tag tag => return (⟨k.mark, some name, some (tag, next.mark)⟩, p.take)
    | _ => return (⟨k.mark, some name, none⟩, p)
  | .tag tag =>
    let (next, p) ← p.take.head
    match next.kind with
    | .anchor name => return (⟨k.mark, some name, some (tag, k.mark)⟩, p.take)
    | _ => return (⟨k.mark, none, some (tag, k.mark)⟩, p)
  | _ => return (⟨k.mark, none, none⟩, p)

/-- What a tag stands for. -/
def meaning (p : Parse) (start : Mark) (tag : Tag) (m : Mark) : Except Fault (List UInt8) :=
  if tag.handle = "" then .ok tag.suffix
  else
    match p.handles.lookup tag.handle with
    | some t => .ok (t ++ tag.suffix)
    | none => .error { problem := .undefinedHandle, mark := m, context := some (.node, start) }

/-- Give a name its anchor, which is counted by the names there are. -/
def addAnchor (p : Parse) (name : String) : Nat × Parse :=
  let n := p.anchors.length
  (n, { p with anchors := (name, n) :: p.anchors.filter (·.1 ≠ name) })

/-- Read the alias of a value. -/
def aliasEvent (p : Parse) (name : String) (m : Mark) : Except Fault (Event × Parse) :=
  match p.anchors.lookup name with
  | some n => .ok ({ kind := .reference n, mark := m }, p.take)
  | none => .error { problem := .unknownAnchor, mark := m }

/-- Read the first event of a value that is no alias: in a block or not, and where a sequence may do
without further indentation. -/
def contentEvent (block bare : Bool) (p : Parse) : Except Fault (Event × Parse) := do
  let (about, p) ← p.properties
  let (k, p) ← p.head
  let tag ← about.tag.mapM fun (tag, m) => p.meaning about.start tag m
  let event (kind : EventKind) (tag : Option (List UInt8)) (p : Parse) : Event × Parse :=
    match about.anchor with
    | none => ({ kind, mark := about.start, tag }, p)
    | some name =>
      let (n, p) := p.addAnchor name
      ({ kind, mark := about.start, anchor := some n, tag }, p)
  match k.kind, block with
  | .scalar text plain, _ =>
    return event (.scalar text plain) (tag.filter (· ≠ Tag.bare.suffix)) p.take
  | .flowSequence, _ => return event .sequence tag (p.take.under (.flowItem k.mark true))
  | .flowMapping, _ => return event .mapping tag (p.take.under (.flowKey k.mark true))
  | .blockSequence, true => return event .sequence tag (p.take.under (.blockItem k.mark))
  | .blockMapping, true => return event .mapping tag (p.take.under (.blockKey k.mark))
  | .blockEntry, _ =>
    if bare then return event .sequence tag (p.under .bareItem) else orMissing event tag k p
  | _, _ => orMissing event tag k p
where
  orMissing (event : EventKind → Option (List UInt8) → Parse → Event × Parse)
      (tag : Option (List UInt8)) (k : Token) (p : Parse) : Except Fault (Event × Parse) :=
    let (e, after) := event (.scalar "" true) tag p
    if e.anchor.isSome || e.tag.isSome then .ok (e, after)
    else
      .error { problem := .expectedContent, mark := k.mark,
               context := some (if block then .blockNode else .flowNode, e.mark) }

/-- Read the first event of a value. -/
def valueEvent (block bare : Bool) (p : Parse) : Except Fault (Event × Parse) := do
  let (k, p) ← p.head
  match k.kind with
  | .reference name => p.aliasEvent name k.mark
  | _ => p.contentEvent block bare

/-- Read the first event of a value, unless the next token shows that it is left out. -/
def memberEvent (block bare : Bool) (ends : TokenKind → Bool) (p : Parse) :
    Except Fault (Event × Parse) := do
  let (k, p) ← p.head
  if ends k.kind then return (missing k.mark, p) else p.valueEvent block bare

/-! ## Collections -/

/-- A collection that neither goes on nor ends. -/
def unfinished (k : Token) (p : Problem) (activity : Activity) (start : Mark) : Fault :=
  { problem := p, mark := k.mark, context := some (activity, start) }

/-- Read an item of a block sequence, or its end. -/
def blockItem (start : Mark) (p : Parse) : Except Fault (Event × Parse) := do
  let (k, p) ← p.head
  match k.kind with
  | .blockEntry =>
    (p.take.under (.blockItem start)).memberEvent true false fun k =>
      k = .blockEntry || k = .blockEnd
  | .blockEnd => return (⟨.sequenceEnd, k.mark, none, none⟩, p.take)
  | _ => .error (unfinished k .expectedEntry .blockSequence start)

/-- Read an item of a sequence without indentation, or its end. -/
def bareItem (p : Parse) : Except Fault (Event × Parse) := do
  let (k, p) ← p.head
  match k.kind with
  | .blockEntry =>
    (p.take.under .bareItem).memberEvent true false fun k => k = .blockEntry || k.endsBlockMember
  | _ => return (⟨.sequenceEnd, k.mark, none, none⟩, p)

/-- Read a key of a block mapping, or its end. -/
def blockKey (start : Mark) (p : Parse) : Except Fault (Event × Parse) := do
  let (k, p) ← p.head
  match k.kind with
  | .key => (p.take.under (.blockValue start)).memberEvent true true (·.endsBlockMember)
  | .blockEnd => return (⟨.mappingEnd, k.mark, none, none⟩, p.take)
  | _ => .error (unfinished k .expectedKey .blockMapping start)

/-- Read a value of a block mapping. -/
def blockValue (start : Mark) (p : Parse) : Except Fault (Event × Parse) := do
  let (k, p) ← p.head
  let p := p.under (.blockKey start)
  match k.kind with
  | .value => p.take.memberEvent true true (·.endsBlockMember)
  | _ => return (missing k.mark, p)

/-- Pass over the comma before a part of a flow collection. -/
def comma (first : Bool) (closing : TokenKind) (fault : Token → Fault) (p : Parse) :
    Except Fault Parse := do
  let (k, p) ← p.head
  if first || k.kind = closing then return p
  else if k.kind = .flowEntry then return p.take
  else .error (fault k)

/-- Read an item of a flow sequence, or its end. -/
def flowItem (start : Mark) (first : Bool) (p : Parse) : Except Fault (Event × Parse) := do
  let p ← p.comma first .flowSequenceEnd fun k =>
    unfinished k .expectedSequenceEnd .flowSequence start
  let (k, p) ← p.head
  match k.kind with
  | .flowSequenceEnd => return (⟨.sequenceEnd, k.mark, none, none⟩, p.take)
  | .key =>
    return (⟨.mapping, k.mark, none, none⟩, (p.take.under (.flowItem start false)).under .pairKey)
  | _ => (p.under (.flowItem start false)).valueEvent false false

/-- Whether a token ends a part of a flow sequence. -/
def endsFlowItem (k : TokenKind) : Bool := k = .flowEntry || k = .flowSequenceEnd

/-- Whether a token ends a part of a flow mapping. -/
def endsFlowMember (k : TokenKind) : Bool := k = .flowEntry || k = .flowMappingEnd

/-- Read the key of a mapping of a single member; if it is left out, the token after it is passed
over. -/
def pairKey (p : Parse) : Except Fault (Event × Parse) := do
  let (k, p) ← p.head
  let p := p.under .pairValue
  if k.kind = .value || endsFlowItem k.kind then return (missing k.mark, p.take)
  else p.valueEvent false false

/-- Read the value of a mapping of a single member. -/
def pairValue (p : Parse) : Except Fault (Event × Parse) := do
  let (k, p) ← p.head
  let p := p.under .pairEnd
  if k.kind = .value then p.take.memberEvent false false endsFlowItem
  else return (missing k.mark, p)

/-- Read a key of a flow mapping, or its end. -/
def flowKey (start : Mark) (first : Bool) (p : Parse) : Except Fault (Event × Parse) := do
  let p ← p.comma first .flowMappingEnd fun k =>
    unfinished k .expectedMappingEnd .flowMapping start
  let (k, p) ← p.head
  match k.kind with
  | .flowMappingEnd => return (⟨.mappingEnd, k.mark, none, none⟩, p.take)
  | .key =>
    (p.take.under (.flowValue start)).memberEvent false false fun k =>
      k = .value || endsFlowMember k
  | _ => (p.under (.noFlowValue start)).valueEvent false false

/-- Read a value of a flow mapping. -/
def flowValue (start : Mark) (p : Parse) : Except Fault (Event × Parse) := do
  let (k, p) ← p.head
  let p := p.under (.flowKey start false)
  if k.kind = .value then p.take.memberEvent false false endsFlowMember
  else return (missing k.mark, p)

/-! ## Documents -/

/-- Read what may come next in something open. -/
def within (p : Parse) : Frame → Except Fault (Event × Parse)
  | .root marked => p.memberEvent true false fun k => marked && k.boundsDocument
  | .blockItem start => p.blockItem start
  | .bareItem => p.bareItem
  | .blockKey start => p.blockKey start
  | .blockValue start => p.blockValue start
  | .flowItem start first => p.flowItem start first
  | .pairKey => p.pairKey
  | .pairValue => p.pairValue
  | .pairEnd => p.head.map fun (k, p) => (⟨.mappingEnd, k.mark, none, none⟩, p)
  | .flowKey start first => p.flowKey start first
  | .flowValue start => p.flowValue start
  | .noFlowValue start =>
    p.head.map fun (k, p) => (missing k.mark, p.under (.flowKey start false))

/-- Read the next event, if something is open. -/
def next? (p : Parse) : Option (Except Fault (Event × Parse)) :=
  match p.frames with
  | [] => none
  | f :: frames => some ({ p with frames }.within f)

end Parse

end DriverRegistration.Yaml
