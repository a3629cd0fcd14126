import DriverRegistration.Yaml.Block
import DriverRegistration.Yaml.Plain
import DriverRegistration.Yaml.Token

/-!
# Reading tokens

`Tokens.head` gives the next token of a text, and `Tokens.take` passes over it.  Only its colon
shows that a key has begun before it, so tokens wait in a queue as long as a colon may still turn
the first of them into a key; a key lies within a line and is short.
-/

namespace DriverRegistration.Yaml

/-- Where a key may have begun. -/
structure KeyStart where
  /-- In how many flow collections it is. -/
  level : Nat
  /-- Whether nothing but a key can be here. -/
  required : Bool
  /-- How many tokens come before it. -/
  number : Nat
  mark : Mark

/-- A text of which some tokens are read. -/
structure Tokens where
  cursor : Cursor
  /-- The tokens that are read and not yet taken. -/
  queue : List Token := []
  /-- How many tokens are taken. -/
  taken : Nat := 0
  /-- The column of the innermost block. -/
  indent : Int := -1
  /-- The columns of the blocks around it. -/
  indents : List Int := []
  /-- In how many flow collections the next character is. -/
  level : Nat := 0
  /-- Where a key may have begun, at most one in each collection, the innermost first. -/
  keys : List KeyStart := []
  /-- Whether a key may begin here. -/
  keyAllowed : Bool := true

namespace Tokens

/-- The tokens of a text. -/
def ofText (cs : List Char) : Tokens := { cursor := { rest := cs } }

/-- Whether this is inside a flow collection. -/
def inFlow (t : Tokens) : Bool := t.level ≠ 0

/-- The place of the next character. -/
def mark (t : Tokens) : Mark := t.cursor.mark

/-- The column of the next character. -/
def column (t : Tokens) : Int := t.mark.column

/-- Put a token at the end of the queue. -/
def push (t : Tokens) (kind : TokenKind) (mark : Mark) : Tokens :=
  { t with queue := t.queue ++ [⟨kind, mark⟩] }

/-- Put a token before the one of a number. -/
def insert (t : Tokens) (number : Nat) (kind : TokenKind) (mark : Mark) : Tokens :=
  let n := number - t.taken
  { t with queue := t.queue.take n ++ ⟨kind, mark⟩ :: t.queue.drop n }

/-- Put a token of some characters at the end of the queue. -/
def pushChars (t : Tokens) (kind : TokenKind) (n : Nat) : Tokens :=
  { t.push kind t.mark with cursor := t.cursor.skip n }

/-! ## Blocks -/

/-- Begin a block in a column, if it is to the right of the innermost one. -/
def openBlock (t : Tokens) (number : Nat) (kind : TokenKind) (mark : Mark) : Tokens :=
  if !t.inFlow && t.indent < mark.column then
    { t.insert number kind mark with indent := mark.column, indents := t.indent :: t.indents }
  else t

/-- Begin a block at the next character. -/
def openHere (t : Tokens) (kind : TokenKind) : Tokens :=
  t.openBlock (t.taken + t.queue.length) kind t.mark

/-- The blocks that remain to the left of a column or in it, and how many end. -/
def blocksUpTo (column : Int) : Int → List Int → Nat × Int × List Int
  | indent, [] => (0, indent, [])
  | indent, i :: is =>
    if column < indent then
      let (n, rest) := blocksUpTo column i is
      (n + 1, rest)
    else (0, indent, i :: is)

/-- End the blocks to the right of a column. -/
def closeBlocks (t : Tokens) (column : Int) : Tokens :=
  if t.inFlow then t
  else
    let (n, indent, indents) := blocksUpTo column t.indent t.indents
    { t with indent, indents, queue := t.queue ++ List.replicate n ⟨.blockEnd, t.mark⟩ }

/-! ## Keys -/

/-- The fault of a key without a colon. -/
def missingColon (t : Tokens) (k : KeyStart) : Fault :=
  t.cursor.fault .missingColon (some (.simpleKey, k.mark))

/-- How many characters a key may have. -/
def keyLimit : Nat := 1024

/-- Whether a key that has begun there cannot have its colon here. -/
def isStale (here : Mark) (k : KeyStart) : Bool :=
  k.mark.line < here.line || k.mark.index + keyLimit < here.index

/-- Give up the keys that cannot have their colon here. -/
def dropStale (t : Tokens) : Except Fault Tokens :=
  match t.keys.find? fun k => isStale t.mark k && k.required with
  | some k => .error (t.missingColon k)
  | none => .ok { t with keys := t.keys.filter (!isStale t.mark ·) }

/-- Where a key may have begun in the innermost collection. -/
def key? (t : Tokens) : Option KeyStart := t.keys.head?.filter (·.level = t.level)

/-- Give up the key of the innermost collection. -/
def dropKey (t : Tokens) : Except Fault Tokens :=
  match t.key? with
  | some k => if k.required then .error (t.missingColon k) else .ok { t with keys := t.keys.drop 1 }
  | none => .ok t

/-- Note that a key may begin here. -/
def noteKey (t : Tokens) : Except Fault Tokens := do
  if t.keyAllowed then
    let k : KeyStart :=
      { level := t.level
        required := !t.inFlow && t.indent = t.column
        number := t.taken + t.queue.length
        mark := t.mark }
    let t ← t.dropKey
    return { t with keys := k :: t.keys }
  else return t

/-! ## Between tokens -/

/-- Whether this is the mark of the byte order. -/
def isByteOrderMark (c : Char) : Bool := c = '\ufeff'

/-- Pass over blanks, comments and line breaks.  The fuel bounds the lines. -/
def skipBetween : Nat → Tokens → Tokens
  | 0, t => t
  | fuel + 1, t =>
    let c := t.cursor
    let c := if c.mark.column = 0 && c.rest.head?.any isByteOrderMark then c.skip else c
    let c := c.skipWhile fun x => x = ' ' || ((t.inFlow || !t.keyAllowed) && x = '\t')
    let c := if c.at? '#' then c.skipLine else c
    if c.rest.head?.any isBreak then
      skipBetween fuel { t with cursor := c.skipBreak, keyAllowed := t.keyAllowed || !t.inFlow }
    else { t with cursor := c }

/-! ## Single tokens -/

/-- End all blocks, and let no key begin. -/
def leaveBlocks (t : Tokens) : Except Fault Tokens := do
  let t ← (t.closeBlocks (-1)).dropKey
  return { t with keyAllowed := false }

/-- Read the end of the text. -/
def readEnd (t : Tokens) : Except Fault Tokens := do
  let m := t.mark
  let m := if m.column = 0 then m else { m with line := m.line + 1, column := 0 }
  let t ← { t with cursor := { t.cursor with mark := m, rest := [] } }.leaveBlocks
  return t.push .textEnd m

/-- Read a directive. -/
def readDirective (t : Tokens) : Except Fault Tokens := do
  let t ← t.leaveBlocks
  let (d, c) ← directive t.cursor
  return { t.push (.directive d) t.mark with cursor := c }

/-- Read a mark between documents. -/
def readMarker (t : Tokens) : Except Fault Tokens := do
  let t ← t.leaveBlocks
  return t.pushChars (if t.cursor.at? '-' then .documentStart else .documentEnd) 3

/-- Read the begin of a flow collection. -/
def readFlowStart (kind : TokenKind) (t : Tokens) : Except Fault Tokens := do
  let t ← t.noteKey
  return { t.pushChars kind 1 with level := t.level + 1, keyAllowed := true }

/-- Read the end of a flow collection. -/
def readFlowEnd (kind : TokenKind) (t : Tokens) : Except Fault Tokens := do
  let t ← t.dropKey
  return { t.pushChars kind 1 with level := t.level - 1, keyAllowed := false }

/-- Read a comma of a flow collection. -/
def readFlowEntry (t : Tokens) : Except Fault Tokens := do
  let t ← t.dropKey
  return { t.pushChars .flowEntry 1 with keyAllowed := true }

/-- Begin a block here unless this is a flow collection; a key must be allowed. -/
def beginBlock (t : Tokens) (kind : TokenKind) (refused : Problem) : Except Fault Tokens :=
  if t.inFlow then .ok t
  else if t.keyAllowed then .ok (t.openHere kind)
  else .error (t.cursor.fault refused)

/-- Read the dash of an item. -/
def readBlockEntry (t : Tokens) : Except Fault Tokens := do
  let t ← (← t.beginBlock .blockSequence .entryNotAllowed).dropKey
  return { t.pushChars .blockEntry 1 with keyAllowed := true }

/-- Read a mark before a key. -/
def readKey (t : Tokens) : Except Fault Tokens := do
  let t ← (← t.beginBlock .blockMapping .keyNotAllowed).dropKey
  return { t.pushChars .key 1 with keyAllowed := !t.inFlow }

/-- Read a colon before a value, and turn what may have been a key into one. -/
def readValue (t : Tokens) : Except Fault Tokens := do
  match t.key? with
  | some k =>
    let t := (t.insert k.number .key k.mark).openBlock k.number .blockMapping k.mark
    return { t.pushChars .value 1 with keys := t.keys.drop 1, keyAllowed := false }
  | none =>
    let t ← t.beginBlock .blockMapping .valueNotAllowed
    return { t.pushChars .value 1 with keyAllowed := !t.inFlow }

/-- Read a token that may be a key. -/
def readPart (read : Tokens → Except Fault (TokenKind × Cursor)) (t : Tokens) :
    Except Fault Tokens := do
  let t ← t.noteKey
  let (kind, c) ← read t
  return { t.push kind t.mark with cursor := c, keyAllowed := false }

/-- Read an anchor. -/
def readAnchor : Tokens → Except Fault Tokens :=
  readPart fun t => (anchorName .anchor t.cursor).map fun (name, c) => (.anchor name, c)

/-- Read an alias. -/
def readAlias : Tokens → Except Fault Tokens :=
  readPart fun t => (anchorName .reference t.cursor).map fun (name, c) => (.reference name, c)

/-- Read a tag. -/
def readTag : Tokens → Except Fault Tokens :=
  readPart fun t => (tag t.inFlow t.cursor).map fun (tag, c) => (.tag tag, c)

/-- Read a quoted scalar. -/
def readQuoted (quotes : Quotes) : Tokens → Except Fault Tokens :=
  readPart fun t => (quotedScalar quotes t.cursor).map fun (text, c) => (.scalar text false, c)

/-- Read a plain scalar.  A key may begin after it if it has ended in a later line. -/
def readPlain (t : Tokens) : Except Fault Tokens := do
  let t ← t.noteKey
  let s ← plainScalar t.inFlow t.indent t.cursor
  return { t.push (.scalar (String.ofList s.text) true) t.mark with
    cursor := s.after, keyAllowed := s.broken }

/-- Read a block scalar. -/
def readBlockScalar (folded : Bool) (t : Tokens) : Except Fault Tokens := do
  let t ← t.dropKey
  let (text, c) ← blockScalar folded t.indent t.cursor
  return { t.push (.scalar text false) t.mark with cursor := c, keyAllowed := true }

/-- The reader of the token that begins with a character, before some others. -/
def reader? (flow : Bool) (x : Char) (r : List Char) : Option (Tokens → Except Fault Tokens) :=
  match x with
  | '[' => some (readFlowStart .flowSequence)
  | '\x7b' => some (readFlowStart .flowMapping)
  | ']' => some (readFlowEnd .flowSequenceEnd)
  | '\x7d' => some (readFlowEnd .flowMappingEnd)
  | ',' => some readFlowEntry
  | '*' => some readAlias
  | '&' => some readAnchor
  | '!' => some readTag
  | '\'' => some (readQuoted .single)
  | '"' => some (readQuoted .double)
  | '-' => if atBlank r then some readBlockEntry else none
  | '?' => if flow || atBlank r then some readKey else none
  | ':' => if flow || atBlank r then some readValue else none
  | '|' => if flow then none else some (readBlockScalar false)
  | '>' => if flow then none else some (readBlockScalar true)
  | _ => none

/-- Read the tokens that begin at the next character other than blanks. -/
def readNext (t : Tokens) : Except Fault Tokens := do
  let t := skipBetween (t.cursor.size + 1) t
  let t ← t.dropStale
  let t := t.closeBlocks t.column
  match t.cursor.rest with
  | [] => t.readEnd
  | x :: r =>
    if t.mark.column = 0 && x = '%' then t.readDirective
    else if t.cursor.atMarker then t.readMarker
    else
      match reader? t.inFlow x r with
      | some read => read t
      | none =>
        if startsPlain t.inFlow (x :: r) then t.readPlain
        else .error (t.cursor.fault .noToken (some (.nextToken, t.mark)))

/-! ## The queue -/

/-- Whether the first token of the queue may turn out to be in a key. -/
def headMayBeKey (t : Tokens) : Bool := t.keys.any (·.number = t.taken)

/-- Read tokens until the first one is known.  The fuel bounds the tokens. -/
def readMore : Nat → Tokens → Except Fault Tokens
  | 0, t => .ok t
  | fuel + 1, t => do
    if t.queue = [] then readMore fuel (← t.readNext)
    else
      let t ← t.dropStale
      if t.headMayBeKey then readMore fuel (← t.readNext) else return t

/-- The next token. -/
def head (t : Tokens) : Except Fault (Token × Tokens) := do
  let t ← readMore (t.cursor.size + 3) t
  match t.queue with
  | k :: _ => return (k, t)
  | [] => return (⟨.textEnd, t.mark⟩, t)

/-- Pass over a token. -/
def take (t : Tokens) : Tokens := { t with queue := t.queue.drop 1, taken := t.taken + 1 }

/-- A bound for the tokens of a text in proportion. -/
def size (t : Tokens) : Nat := t.cursor.size + 1

end Tokens

end DriverRegistration.Yaml
