import DriverRegistration.Text.Utf8

/-!
# Names of hosts

The name of a host is a row of labels with points between them, the last of which is not a number.
A host may also be named by its address: four numbers, or groups of hexadecimal digits.
-/

namespace DriverRegistration.Text

/-- The parts of a text between marks of one kind. -/
def splitMarks (mark : Char) : List Char → List (List Char)
  | [] => [[]]
  | c :: cs =>
    match splitMarks mark cs with
    | [] => [[c]]
    | part :: parts => if c = mark then [] :: part :: parts else (c :: part) :: parts

/-- How many characters a label may have. -/
def labelLimit : Nat := 63

/-- How many characters the name of a host may have. -/
def hostNameLimit : Nat := 253

/-- Whether a part of a name is a label. -/
def isLabel (cs : List Char) : Bool :=
  cs ≠ [] && cs.length ≤ labelLimit && cs.all (fun c => c.isAlphanum || c = '_' || c = '-') &&
    cs.head? ≠ some '-' && cs.getLast? ≠ some '-'

/-- Whether a text is the name of a host.  A point may stand at its end. -/
def isHostName (cs : List Char) : Bool :=
  let labels := splitMarks '.' (if cs.getLast? = some '.' then cs.dropLast else cs)
  cs.length ≤ hostNameLimit && labels.all isLabel && !(labels.getLast?.any (·.all Char.isDigit))

/-- Whether a text is a number of one octet without leading zeros. -/
def isOctet (cs : List Char) : Bool :=
  cs ≠ [] && cs.length ≤ 3 && cs.all Char.isDigit && (cs.length = 1 || cs.head? ≠ some '0') &&
    cs.foldl (fun n d => n * 10 + (d.toNat - 48)) 0 ≤ 255

/-- Whether a text is an address of four numbers. -/
def isShortAddress (cs : List Char) : Bool :=
  let parts := splitMarks '.' cs
  parts.length = 4 && parts.all isOctet

/-- Whether a text is a group of hexadecimal digits. -/
def isGroup (cs : List Char) : Bool :=
  cs ≠ [] && cs.length ≤ 4 &&
    cs.all fun c => c.isDigit || ('a' ≤ c && c ≤ 'f') || ('A' ≤ c && c ≤ 'F')

/-- How many groups some parts of an address are; four numbers at the end count as two. -/
def groupCount? (parts : List (List Char)) : Option Nat :=
  match parts.reverse with
  | [] | [[]] => some 0
  | last :: before =>
    if !before.all isGroup then none
    else if isGroup last then some (before.length + 1)
    else if isShortAddress last then some (before.length + 2)
    else none

/-- Whether a text is an address of eight groups, of which a row of zeros may be left out. -/
def isLongAddress (cs : List Char) : Bool :=
  let (before, after) := leftOut cs
  let count (part : List Char) : Option Nat := groupCount? (splitMarks ':' part)
  match after with
  | none => count before = some 8
  | some after =>
    before.all (· ≠ '.') &&
      match count before, count after with
      | some m, some n => m + n ≤ 7
      | _, _ => false
where
  /-- What stands before two colons in a row, and what stands after them. -/
  leftOut : List Char → List Char × Option (List Char)
    | [] => ([], none)
    | ':' :: ':' :: r => ([], some r)
    | c :: r => let (before, after) := leftOut r; (c :: before, after)

/-- Whether a text names a host. -/
def namesHost (s : String) : Bool :=
  isHostName s.toList || isShortAddress s.toList || isLongAddress s.toList

end DriverRegistration.Text
