import DriverRegistration.Yaml.Fault

/-!
# Places in a YAML text

A `Cursor` is a place in a text together with the characters from there on.  `skip` passes over
characters within a line, `skipBreak` over the end of a line.
-/

namespace DriverRegistration.Yaml

/-! ## Characters -/

/-- Whether a character is a blank within a line. -/
def isBlank (c : Char) : Bool := c = ' ' || c = '\t'

/-- Whether a character ends a line. -/
def isBreak (c : Char) : Bool :=
  c = '\n' || c = '\r' || c = '\u0085' || c = '\u2028' || c = '\u2029'

/-- Whether a character may stand in a name. -/
def isName (c : Char) : Bool := c.isAlphanum || c = '_' || c = '-'

/-- Whether a character is one of the marks of flow collections. -/
def isFlowMark (c : Char) : Bool :=
  c = ',' || c = '[' || c = ']' || c = '\x7b' || c = '\x7d'

/-- Whether a line or the text ends here. -/
def atBreak (cs : List Char) : Bool := cs.head?.all isBreak

/-- Whether a blank, a line break or the end of the text is here. -/
def atBlank (cs : List Char) : Bool := cs.head?.all fun c => isBlank c || isBreak c

/-- Whether two characters in a row are a line break of its own. -/
def isPair (c : Char) (r : List Char) : Bool := c = '\r' && r.head? = some '\n'

/-- The text that a line break here stands for. -/
def breakText : List Char → List Char
  | [] => []
  | c :: _ =>
    if c = '\u2028' || c = '\u2029' then [c] else if isBreak c then ['\n'] else []

/-! ## Cursors -/

/-- A place in a text and the characters from there on. -/
structure Cursor where
  mark : Mark := {}
  rest : List Char
  /-- How many characters the whole text has. -/
  size : Nat := rest.length

namespace Cursor

/-- Pass over some characters of a line. -/
def skip (c : Cursor) (n : Nat := 1) : Cursor :=
  { c with
    mark := { c.mark with index := c.mark.index + n, column := c.mark.column + n }
    rest := c.rest.drop n }

/-- Pass over a line break, if there is one. -/
def skipBreak (c : Cursor) : Cursor :=
  match c.rest with
  | [] => c
  | x :: r =>
    if isPair x r then
      { c with mark := ⟨c.mark.index + 2, c.mark.line + 1, 0⟩, rest := r.drop 1 }
    else if isBreak x then { c with mark := ⟨c.mark.index + 1, c.mark.line + 1, 0⟩, rest := r }
    else c

/-- The characters of a line from here on that are of some class. -/
def run (c : Cursor) (p : Char → Bool) : List Char := c.rest.takeWhile p

/-- Pass over the characters of a line that are of some class. -/
def skipWhile (c : Cursor) (p : Char → Bool) : Cursor := c.skip (c.run p).length

/-- Whether some character is here. -/
def at? (c : Cursor) (x : Char) : Bool := c.rest.head? = some x

/-- Pass over the rest of a line. -/
def skipLine (c : Cursor) : Cursor := c.skipWhile (!isBreak ·)

/-- Pass over blanks and a comment. -/
def skipComment (c : Cursor) : Cursor :=
  let c := c.skipWhile isBlank
  if c.at? '#' then c.skipLine else c

/-- Whether a line begins here with a mark between documents. -/
def atMarker (c : Cursor) : Bool :=
  c.mark.column = 0 && (c.rest.take 3 = ['-', '-', '-'] || c.rest.take 3 = ['.', '.', '.']) &&
    atBlank (c.rest.drop 3)

/-- A problem that shows here. -/
def fault (c : Cursor) (problem : Problem) (context : Option (Activity × Mark) := none) : Fault :=
  { problem, mark := c.mark, context }

end Cursor

/-! ## Blanks and breaks between words -/

/-- The blanks and the line breaks between two words of a scalar. -/
structure Gap where
  blanks : List Char := []
  /-- The first line break. -/
  first : List Char := []
  /-- The further line breaks. -/
  more : List Char := []
  /-- Whether the line has ended. -/
  broken : Bool := false

namespace Gap

/-- What a gap stands for: a single line break for a blank, further ones for themselves. -/
def text (g : Gap) : List Char :=
  if !g.broken then g.blanks
  else if g.first = ['\n'] then (if g.more = [] then [' '] else g.more)
  else g.first ++ g.more

/-- Read a gap.  A tab before the column of the scalar is refused in a new line.  The fuel bounds
the characters. -/
def read (indent : Int) (refusal : Cursor → Fault) :
    Nat → Gap → Cursor → Except Fault (Gap × Cursor)
  | 0, g, c => .ok (g, c)
  | fuel + 1, g, c =>
    match c.rest with
    | [] => .ok (g, c)
    | x :: _ =>
      if isBlank x then
        if g.broken then
          if x = '\t' && c.mark.column < indent then .error (refusal c)
          else read indent refusal fuel g c.skip
        else read indent refusal fuel { g with blanks := g.blanks ++ [x] } c.skip
      else if isBreak x then
        if g.broken then
          read indent refusal fuel { g with more := g.more ++ breakText c.rest } c.skipBreak
        else
          read indent refusal fuel { g with first := breakText c.rest, broken := true } c.skipBreak
      else .ok (g, c)

end Gap

end DriverRegistration.Yaml
