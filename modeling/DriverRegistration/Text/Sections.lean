import DriverRegistration.Text.Base64
import DriverRegistration.Text.Blank
import DriverRegistration.Text.Utf8

/-!
# Sections of octets in a text

A section stands between a line that begins it and one that ends it, both of which name what is in
it.  Its octets are written in base 64, with blanks anywhere.  Other text around sections is passed
over.
-/

namespace DriverRegistration.Text

/-- A section of a text. -/
structure Section where
  label : String
  content : List UInt8
  deriving DecidableEq, Repr

/-- Why the sections of a text cannot be read. -/
inductive SectionFault where
  | missingBegin
  | missingEnd
  | labels (first last : String)
  | symbol (code offset : Nat)
  | padding
  deriving DecidableEq, Repr

/-- The text of a fault. -/
def SectionFault.message : SectionFault → String
  | missingBegin => "missing BEGIN tag"
  | missingEnd => "missing END tag"
  | labels first last => "mismatching BEGIN (\"" ++ first ++ "\") and END (\"" ++ last ++ "\") tags"
  | symbol code offset => s!"invalid data: Invalid symbol {code}, offset {offset}."
  | padding => "invalid data: Invalid padding"

/-- The characters before the first place of a mark, and those after it. -/
def splitAt? (mark : List Char) : List Char → Option (List Char × List Char)
  | [] => if mark = [] then some ([], []) else none
  | c :: cs =>
    if mark.isPrefixOf (c :: cs) then some ([], (c :: cs).drop mark.length)
    else (splitAt? mark cs).map fun (before, after) => (c :: before, after)

/-- The octets of a section. -/
def sectionContent (body : List Char) : Except SectionFault (List UInt8) :=
  let cs := body.filter (!isBlank ·)
  match ofBase64? cs with
  | some os => .ok os
  | none =>
    match cs.zipIdx.find? fun (c, _) => (sixBits? c).isNone && c ≠ '=' with
    | some (c, i) => .error (.symbol c.toNat i)
    | none => .error .padding

/-- Read the first section of a text, and give the text after it. -/
def section? (cs : List Char) : Option (Except SectionFault Section × List Char) := do
  let (_, cs) ← splitAt? "-----BEGIN ".toList cs
  let (first, cs) ← splitAt? "-----".toList cs
  let (body, cs) ← splitAt? "-----END ".toList cs
  let (last, cs) ← splitAt? "-----".toList cs
  let label := String.ofList first
  let result :=
    if first = [] then .error .missingBegin
    else if last = [] then .error .missingEnd
    else if first ≠ last then .error (.labels label (String.ofList last))
    else (sectionContent body).map fun content => ⟨label, content⟩
  return (result, cs)

/-- Read the sections of a text.  The fuel bounds them. -/
def sectionsFrom : Nat → List Char → Except SectionFault (List Section)
  | 0, _ => .ok []
  | fuel + 1, cs =>
    match section? cs with
    | none => .ok []
    | some (.error f, _) => .error f
    | some (.ok s, cs) => (sectionsFrom fuel cs).map (s :: ·)

/-- The sections of a text that is given by its octets. -/
def sections (octets : List UInt8) : Except SectionFault (List Section) :=
  let cs := octets.map fun o => Char.ofNat o.toNat
  sectionsFrom cs.length cs

end DriverRegistration.Text
