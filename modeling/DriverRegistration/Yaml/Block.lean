import DriverRegistration.Yaml.Cursor

/-!
# Block scalars

A block scalar is an indented text under a header.  A literal one keeps its line breaks, a folded
one turns single ones between lines that do not begin with a blank into blanks.  The header may name
the indentation, and what becomes of the line breaks at the end.
-/

namespace DriverRegistration.Yaml

/-- What becomes of the line breaks at the end of a block scalar. -/
inductive Chomping where
  | strip
  | clip
  | keep
  deriving DecidableEq, Repr

/-- The header of a block scalar. -/
structure BlockHeader where
  chomping : Chomping := .clip
  /-- The indentation, relative to that of the block around the scalar. -/
  indent? : Option Nat := none

/-- The chomping that is named here. -/
def chomping? (c : Cursor) : Option Chomping :=
  if c.at? '+' then some .keep else if c.at? '-' then some .strip else none

/-- The digit that is here. -/
def digit? (c : Cursor) : Option Nat :=
  c.rest.head?.bind fun x => if x.isDigit then some (x.toNat - 48) else none

/-- Read the marks of a header, which stand in either order. -/
def blockHeader (start : Mark) (c : Cursor) : Except Fault (BlockHeader × Cursor) :=
  let first := chomping? c
  let c := if first.isSome then c.skip else c
  match digit? c with
  | none => .ok (⟨first.getD .clip, none⟩, c)
  | some 0 => .error (c.fault .zeroIndent (some (.blockScalar, start)))
  | some d =>
    let c := c.skip
    let last := if first.isSome then none else chomping? c
    .ok (⟨(first <|> last).getD .clip, some d⟩, if last.isSome then c.skip else c)

/-! ## Lines -/

/-- Empty lines before a line of a block scalar. -/
structure EmptyLines where
  breaks : List Char := []
  /-- The column of the line that is farthest to the right. -/
  widest : Nat := 0

/-- Pass over empty lines, and over the indentation of the line after them.  An indentation of zero
is one that is not known yet.  The fuel bounds the lines. -/
def emptyLines (start : Mark) (indent : Nat) :
    Nat → EmptyLines → Cursor → Except Fault (EmptyLines × Cursor)
  | 0, lines, c => .ok (lines, c)
  | fuel + 1, lines, c =>
    let blanks := (c.run (· = ' ')).length
    let c := c.skip (if indent = 0 then blanks else min blanks (indent - c.mark.column))
    let lines := { lines with widest := max lines.widest c.mark.column }
    if (indent = 0 || c.mark.column < indent) && c.at? '\t' then
      .error (c.fault .tabInIndent (some (.blockScalar, start)))
    else if c.rest.head?.any isBreak then
      emptyLines start indent fuel { lines with breaks := lines.breaks ++ breakText c.rest }
        c.skipBreak
    else .ok (lines, c)

/-- The indentation of a block scalar whose header does not name it. -/
def detectedIndent (around : Int) (widest : Nat) : Nat := max (max widest (around + 1).toNat) 1

/-- A block scalar as far as it has been read. -/
structure BlockText where
  /-- What is read before the last line break, the last character first. -/
  text : List Char := []
  /-- The line break after the last line. -/
  last : List Char := []
  /-- The line breaks of the empty lines after it. -/
  empty : List Char := []
  /-- Whether the last line began with a blank. -/
  blank : Bool := false

/-- A block scalar with a further line. -/
def BlockText.line (b : BlockText) (folded : Bool) (line : List Char) : BlockText :=
  let blank := line.head?.any isBlank
  let between :=
    if folded && b.last = ['\n'] && !b.blank && !blank then (if b.empty = [] then [' '] else [])
    else b.last
  { text := line.reverse ++ (b.empty.reverse ++ (between.reverse ++ b.text)), blank }

/-- The text of a block scalar. -/
def BlockText.chomped (b : BlockText) : Chomping → List Char
  | .strip => b.text.reverse
  | .clip => b.text.reverse ++ b.last
  | .keep => b.text.reverse ++ b.last ++ b.empty

/-- Read the lines of a block scalar.  The fuel bounds them. -/
def blockLines (folded : Bool) (start : Mark) (indent : Nat) :
    Nat → BlockText → Cursor → Except Fault (BlockText × Cursor)
  | 0, b, c => .ok (b, c)
  | fuel + 1, b, c => do
    if c.mark.column = indent && c.rest ≠ [] then
      let line := c.run (!isBreak ·)
      let c := c.skip line.length
      let (lines, after) ← emptyLines start indent (c.size + 1) {} c.skipBreak
      blockLines folded start indent fuel
        { b.line folded line with last := breakText c.rest, empty := lines.breaks } after
    else return (b, c)

/-- Read a block scalar in a block of an indentation. -/
def blockScalar (folded : Bool) (around : Int) (c : Cursor) : Except Fault (String × Cursor) := do
  let start := c.mark
  let (header, c) ← blockHeader start c.skip
  let c := c.skipComment
  if !atBreak c.rest then .error (c.fault .expectedLineEnd (some (.blockScalar, start)))
  else
    let c := c.skipBreak
    let named := (header.indent?.map (· + around.toNat)).getD 0
    let (lines, c) ← emptyLines start named (c.size + 1) {} c
    let indent := if named = 0 then detectedIndent around lines.widest else named
    let (b, c) ←
      blockLines folded start indent (c.size + 1) { empty := lines.breaks } c
    return (String.ofList (b.chomped header.chomping), c)

end DriverRegistration.Yaml
