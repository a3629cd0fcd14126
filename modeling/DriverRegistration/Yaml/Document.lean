import DriverRegistration.Yaml.Event

/-!
# Documents of a YAML text

A text is a row of documents.  Directives may stand before a document, and a mark must, except
before the first one.  A document is known by its events, up to the first fault, after which nothing
is read.
-/

namespace DriverRegistration.Yaml

/-- The events of a document, and the fault that ends them. -/
structure Document where
  events : Array Event := #[]
  /-- The number of the event of each anchor, the last one first. -/
  anchors : List (Nat × Nat) := []
  fault : Option Fault := none

namespace Document

/-- A document with a further event. -/
def push (d : Document) (e : Event) : Document :=
  let anchors := match e.anchor with
    | some anchor => (anchor, d.events.size) :: d.anchors
    | none => d.anchors
  { d with events := d.events.push e, anchors }

/-- Add events to a document as long as something is open.  The fuel bounds them. -/
def readEvents : Nat → Document → Parse → Document × Parse
  | 0, d, p => (d, p)
  | fuel + 1, d, p =>
    match p.next? with
    | none => (d, p)
    | some (.error f) => ({ d with fault := some f }, p)
    | some (.ok (e, p)) => readEvents fuel (d.push e) p

/-! ## Directives -/

/-- The handles that need no directive. -/
def usualHandles : List (String × List UInt8) :=
  [("!", Text.utf8 "!"), ("!!", Text.utf8 "tag:yaml.org,2002:")]

/-- What directives say before a document. -/
structure Prologue where
  version : Bool := false
  handles : List (String × List UInt8) := []

/-- Obey a directive. -/
def Prologue.obey (d : Prologue) (m : Mark) : Directive → Except Fault Prologue
  | .version major minor =>
    if d.version then .error { problem := .duplicateVersion, mark := m }
    else if major = 1 && (minor = 1 || minor = 2) then .ok { d with version := true }
    else .error { problem := .incompatibleVersion, mark := m }
  | .handle name meaning =>
    if (d.handles.lookup name).isSome then .error { problem := .duplicateHandle, mark := m }
    else .ok { d with handles := d.handles ++ [(name, meaning)] }

/-- Read directives.  The fuel bounds them. -/
def readDirectives : Nat → Prologue → Tokens → Except Fault (Prologue × Tokens)
  | 0, d, t => .ok (d, t)
  | fuel + 1, d, t => do
    let (k, t) ← t.head
    match k.kind with
    | .directive directive => readDirectives fuel (← d.obey k.mark directive) t.take
    | _ => return (d, t)

/-! ## Begins and ends -/

/-- Pass over the marks that end documents.  The fuel bounds them. -/
def skipEnds : Nat → Tokens → Except Fault Tokens
  | 0, t => .ok t
  | fuel + 1, t => do
    let (k, t) ← t.head
    if k.kind = .documentEnd then skipEnds fuel t.take else return t

/-- Whether the first document begins without a mark before it. -/
def beginsBare : TokenKind → Bool
  | .directive _ | .documentStart | .textEnd => false
  | _ => true

/-- Begin a document, if there is a further one. -/
def start? (first : Bool) (t : Tokens) : Except Fault (Option Parse) := do
  let t ← if first then pure t else skipEnds t.size t
  let (k, t) ← t.head
  if first && beginsBare k.kind then
    return some { tokens := t, handles := usualHandles, frames := [.root false] }
  else if k.kind = .textEnd then return none
  else
    let (d, t) ← readDirectives t.size {} t
    let (k, t) ← t.head
    if k.kind = .documentStart then
      return some { tokens := t.take, handles := d.handles ++ usualHandles, frames := [.root true] }
    else .error { problem := .expectedDocumentStart, mark := k.mark }

/-- Pass over the mark that may end a document. -/
def finish (p : Parse) : Except Fault Tokens := do
  let (k, t) ← p.tokens.head
  return if k.kind = .documentEnd then t.take else t

/-- A bound for the events of a document. -/
def eventBound (t : Tokens) : Nat := 8 * t.size + 8

/-- Read a document that has begun, and what remains after it if it has no fault. -/
def read (p : Parse) : Document × Option Tokens :=
  let (d, p) := readEvents (eventBound p.tokens) {} p
  if d.fault.isSome then (d, none)
  else
    match finish p with
    | .ok t => (d, some t)
    | .error f => ({ d with fault := some f }, none)

/-- Read the documents from some place on.  The fuel bounds them. -/
def readAll : Nat → Bool → Tokens → List Document
  | 0, _, _ => []
  | fuel + 1, first, t =>
    match start? first t with
    | .error f => [{ fault := some f }]
    | .ok none => if first then [{ events := #[Parse.missing {}] }] else []
    | .ok (some p) =>
      match read p with
      | (d, none) => [d]
      | (d, some t) => d :: readAll fuel false t

/-! ## Texts -/

/-- Whether a text may hold a character. -/
def isAllowed (c : Char) : Bool :=
  let n := c.toNat
  n = 0x09 || n = 0x0A || n = 0x0D || (0x20 ≤ n && n ≤ 0x7E) || n = 0x85 ||
    (0xA0 ≤ n && n ≤ 0xD7FF) || (0xE000 ≤ n && n ≤ 0xFFFD) || 0x10000 ≤ n

/-- The characters after a mark of the byte order. -/
def withoutByteOrderMark : List Char → List Char
  | c :: r => if Tokens.isByteOrderMark c then r else c :: r
  | [] => []

/-- The documents of a text.  A text without any is a single one that is left out. -/
def ofText (text : List Char) : List Document :=
  let cs := withoutByteOrderMark text
  match cs.dropWhile isAllowed with
  | _ :: _ =>
    let before :=
      Text.byteLength (cs.takeWhile isAllowed) + (Text.byteLength text - Text.byteLength cs)
    [{ fault := some { problem := .controlCharacter, offset := before } }]
  | [] => readAll (cs.length + 1) true (.ofText cs)

end Document

end DriverRegistration.Yaml
