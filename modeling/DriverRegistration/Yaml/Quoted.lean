import DriverRegistration.Yaml.Cursor

/-!
# Quoted scalars

A quoted scalar is always a text.  In single quotation marks only the mark itself is written in
another way, twice; in double ones a backslash begins an escape.  Line breaks inside are folded.
-/

namespace DriverRegistration.Yaml

/-- The character of an escape of one letter. -/
def shortEscape? (c : Char) : Option Char :=
  [('0', '\x00'), ('a', '\x07'), ('b', '\x08'), ('t', '\t'), ('\t', '\t'), ('n', '\n'),
    ('v', '\x0b'), ('f', '\x0c'), ('r', '\r'), ('e', '\x1b'), (' ', ' '), ('"', '"'), ('/', '/'),
    ('\\', '\\'), ('N', '\u0085'), ('_', '\u00a0'), ('L', '\u2028'), ('P', '\u2029')].lookup c

/-- How many hexadecimal digits follow the letter of an escape. -/
def escapeWidth? (c : Char) : Option Nat := [('x', 2), ('u', 4), ('U', 8)].lookup c

/-- The value of a hexadecimal digit. -/
def hexValue? (c : Char) : Option Nat :=
  if c.isDigit then some (c.toNat - 48)
  else if 'a' ≤ c && c ≤ 'f' then some (c.toNat - 87)
  else if 'A' ≤ c && c ≤ 'F' then some (c.toNat - 55)
  else none

/-- The number that hexadecimal digits write. -/
def hexNumber? (cs : List Char) : Option Nat :=
  cs.foldlM (fun n c => (hexValue? c).map (n * 16 + ·)) 0

/-- Whether a number is the code of a character. -/
def isCharCode (n : Nat) : Bool := n < 0xD800 || (0xDFFF < n && n ≤ 0x10FFFF)

/-- The quotation marks of a scalar. -/
inductive Quotes where
  | single
  | double
  deriving DecidableEq, Repr

/-- The character of a quotation mark. -/
def Quotes.char : Quotes → Char
  | single => '\''
  | double => '"'

/-- Read the escape of a character at its backslash. -/
def escape (start : Mark) (c : Cursor) : Except Fault (Char × Cursor) :=
  let refuse {α : Type} (c : Cursor) (p : Problem) : Except Fault α :=
    .error (c.fault p (some (.quotedScalarEscape, start)))
  match c.rest with
  | _ :: x :: r =>
    match shortEscape? x, escapeWidth? x with
    | some e, _ => .ok (e, c.skip 2)
    | none, none => refuse c .unknownEscape
    | none, some width =>
      match hexNumber? (r.take width) with
      | some n =>
        if (r.take width).length < width then refuse (c.skip 2) .expectedHexNumber
        else if isCharCode n then .ok (Char.ofNat n, c.skip (2 + width))
        else refuse (c.skip 2) .invalidCode
      | none => refuse (c.skip 2) .expectedHexNumber
  | _ => refuse c .unknownEscape

/-- Read the characters of a quoted scalar and its last quotation mark.  `text` holds what is read,
the last character first; the fuel bounds the steps. -/
def quotedFrom (quotes : Quotes) (start : Mark) :
    Nat → List Char → Cursor → Except Fault (List Char × Cursor)
  | 0, _, c => .error (c.fault .endOfText (some (.quotedScalar, start)))
  | fuel + 1, text, c =>
    let gap (g : Gap) (c : Cursor) : Except Fault (List Char × Cursor) := do
      let (g, c) ← Gap.read 0 (fun c => c.fault .tabInScalar) c.size g c
      quotedFrom quotes start fuel (g.text.reverse ++ text) c
    if c.atMarker then .error (c.fault .markerInScalar (some (.quotedScalar, start)))
    else
      match c.rest with
      | [] => .error (c.fault .endOfText (some (.quotedScalar, start)))
      | x :: r =>
        if x = quotes.char then
          if quotes = .single && r.head? = some x then
            quotedFrom quotes start fuel (x :: text) (c.skip 2)
          else .ok (text.reverse, c.skip)
        else if x = '\\' && quotes = .double then
          if r.head?.any isBreak then gap { broken := true } c.skip.skipBreak
          else do
            let (e, c) ← escape start c
            quotedFrom quotes start fuel (e :: text) c
        else if isBlank x || isBreak x then gap {} c
        else quotedFrom quotes start fuel (x :: text) c.skip

/-- Read a quoted scalar from its first quotation mark. -/
def quotedScalar (quotes : Quotes) (c : Cursor) : Except Fault (String × Cursor) := do
  let (text, c) ← quotedFrom quotes c.mark (c.size + 1) [] c.skip
  return (String.ofList text, c)

end DriverRegistration.Yaml
