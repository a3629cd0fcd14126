import DriverRegistration.Text.Utf8
import DriverRegistration.Yaml.Quoted

/-!
# Anchors, tags and directives

An anchor names a value, and an alias stands for the value of an anchor.  A tag is a handle and a
suffix, where a directive says what text a handle stands for; a tag may also be written in full.
Octets that no address may hold are written in hexadecimal digits.
-/

namespace DriverRegistration.Yaml

/-! ## Anchors -/

/-- Whether a name may end here. -/
def endsName (cs : List Char) : Bool :=
  atBlank cs || cs.head?.any fun c => "?:,]\x7d%@".contains c || c.toNat = 0x60

/-- Read the name of an anchor or an alias from its mark. -/
def anchorName (activity : Activity) (c : Cursor) : Except Fault (String × Cursor) :=
  let name := c.skip.run isName
  let after := c.skip (1 + name.length)
  if name ≠ [] && endsName after.rest then .ok (String.ofList name, after)
  else .error (after.fault .anchorName (some (activity, c.mark)))

/-! ## Addresses -/

/-- Whether a character may stand in the address of a tag; a whole address may hold more. -/
def inAddress (whole : Bool) (c : Char) : Bool :=
  isName c || ";/?:@&=+$.%!~*'()".contains c || (whole && (c = ',' || c = '[' || c = ']'))

/-- How many octets a character has whose first one this is. -/
def octetsFrom? (n : Nat) : Option Nat :=
  if n < 0x80 then some 1
  else if 0xC0 ≤ n && n < 0xE0 then some 2
  else if 0xE0 ≤ n && n < 0xF0 then some 3
  else if 0xF0 ≤ n && n < 0xF8 then some 4
  else none

/-- The octet that is written here. -/
def octet? : List Char → Option Nat
  | '%' :: a :: b :: _ => hexNumber? [a, b]
  | _ => none

/-- Read the octets of an address.  `due` says how many octets the character that has begun still
lacks.  The fuel bounds the characters. -/
def octets (whole : Bool) (context : Activity × Mark) :
    Nat → Nat → Cursor → Except Fault (List UInt8 × Cursor)
  | 0, _, c => .ok ([], c)
  | fuel + 1, due, c =>
    let refuse (p : Problem) : Except Fault (List UInt8 × Cursor) :=
      .error (c.fault p (some context))
    let more (n due : Nat) : Except Fault (List UInt8 × Cursor) :=
      (octets whole context fuel due (c.skip 3)).map fun (os, c) => (UInt8.ofNat n :: os, c)
    if due ≠ 0 || c.at? '%' then
      match octet? c.rest with
      | none => refuse .expectedOctet
      | some n =>
        if due ≠ 0 then
          if 0x80 ≤ n && n < 0xC0 then more n (due - 1) else refuse .trailingOctet
        else
          match octetsFrom? n with
          | none => refuse .leadingOctet
          | some k => more n (k - 1)
    else
      match c.rest with
      | [] => .ok ([], c)
      | x :: _ =>
        if inAddress whole x then
          (octets whole context fuel 0 c.skip).map fun (os, c) => (UInt8.ofNat x.toNat :: os, c)
        else .ok ([], c)

/-- Read an address, which must not be empty.  It ends before an octet of zero. -/
def address (whole : Bool) (context : Activity × Mark) (c : Cursor) :
    Except Fault (List UInt8 × Cursor) := do
  let (os, after) ← octets whole context (c.size + 1) 0 c
  if after.mark.index = c.mark.index then .error (after.fault .expectedTagUri (some context))
  else return (os.takeWhile (· ≠ 0), after)

/-! ## Tags -/

/-- A tag as it is written. -/
structure Tag where
  /-- What a directive explains; empty for a tag that is written in full. -/
  handle : String
  suffix : List UInt8
  deriving DecidableEq, Repr

/-- The tag that says that a value has none. -/
def Tag.bare : Tag := ⟨"", [0x21]⟩

/-- The characters of a handle from its first mark on. -/
def handleChars (c : Cursor) : List Char :=
  let name := c.skip.run isName
  let last := (c.skip (1 + name.length)).at? '!'
  '!' :: name ++ if last then ['!'] else []

/-- Read a tag from its mark, in a flow collection or outside one. -/
def tag (flow : Bool) (c : Cursor) : Except Fault (Tag × Cursor) := do
  let start := c.mark
  let handle := handleChars c
  let (tag, after) ←
    if c.rest[1]? = some '<' then
      let (suffix, after) ← address true (.tagUri, start) (c.skip 2)
      if after.at? '>' then pure (⟨"", suffix⟩, after.skip)
      else .error (after.fault .expectedTagEnd (some (.tag, start)))
    else if handle.length ≠ 1 && handle.getLast? = some '!' then
      let (suffix, after) ← address false (.tagUri, start) (c.skip handle.length)
      pure (⟨String.ofList handle, suffix⟩, after)
    else
      let (suffix, after) ← octets false (.tagUri, start) (c.size + 1) 0 c.skip
      let suffix := suffix.takeWhile (· ≠ 0)
      pure (if suffix = [] then Tag.bare else ⟨"!", suffix⟩, after)
  if atBlank after.rest || (flow && after.at? ',') then return (tag, after)
  else .error (after.fault .expectedBlankOrBreak (some (.tag, start)))

/-! ## Directives -/

/-- What a directive says. -/
inductive Directive where
  | version (major minor : Nat)
  | handle (name : String) (meaning : List UInt8)
  deriving DecidableEq, Repr

/-- Read a number of a version. -/
def versionNumber (start : Mark) (c : Cursor) : Except Fault (Nat × Cursor) :=
  let digits := c.run Char.isDigit
  let context := some (Activity.versionDirective, start)
  if 9 < digits.length then .error ((c.skip 9).fault .longVersion context)
  else if digits = [] then .error (c.fault .missingVersion context)
  else .ok (digits.foldl (fun n d => n * 10 + (d.toNat - 48)) 0, c.skip digits.length)

/-- Read what follows the name of a directive on the version. -/
def versionDirective (start : Mark) (c : Cursor) : Except Fault (Directive × Cursor) := do
  let (major, c) ← versionNumber start (c.skipWhile isBlank)
  if !c.at? '.' then .error (c.fault .expectedVersionMark (some (.versionDirective, start)))
  else
    let (minor, c) ← versionNumber start c.skip
    return (.version major minor, c)

/-- Read what follows the name of a directive on a handle. -/
def handleDirective (start : Mark) (c : Cursor) : Except Fault (Directive × Cursor) := do
  let c := c.skipWhile isBlank
  let handle := handleChars c
  let after := c.skip handle.length
  if !c.at? '!' then .error (c.fault .expectedTagMark (some (.tagDirectiveMark, start)))
  else if handle.length ≠ 1 && handle.getLast? ≠ some '!' then
    .error (after.fault .expectedTagMark (some (.tagDirectiveHandle, start)))
  else if !after.rest.head?.any isBlank then
    .error (after.fault .expectedBlank (some (.tagDirective, start)))
  else
    let (meaning, c) ← address true (.tagDirectivePrefix, start) (after.skipWhile isBlank)
    if atBlank c.rest then return (.handle (String.ofList handle) meaning, c)
    else .error (c.fault .expectedBlankOrBreak (some (.tagDirective, start)))

/-- Read a directive from its mark to the end of its line. -/
def directive (c : Cursor) : Except Fault (Directive × Cursor) := do
  let start := c.mark
  let context := some (Activity.directive, start)
  let name := c.skip.run isName
  let after := c.skip (1 + name.length)
  if name = [] then .error (after.fault .missingDirectiveName context)
  else if !atBlank after.rest then .error (after.fault .directiveCharacter context)
  else
    let (directive, c) ←
      if name = "YAML".toList then versionDirective start after
      else if name = "TAG".toList then handleDirective start after
      else .error (after.fault .unknownDirective context)
    let c := c.skipComment
    if atBreak c.rest then return (directive, c.skipBreak)
    else .error (c.fault .expectedLineEnd context)

end DriverRegistration.Yaml
