import DriverRegistration.Yaml.Cursor

/-!
# Plain scalars

A plain scalar is written without quotation marks.  It ends before a colon that a blank follows,
before a comment, in a line that is not indented enough, and in a flow collection before one of its
marks.
-/

namespace DriverRegistration.Yaml

/-- The characters with which no scalar begins, unless something else follows than it usually
does. -/
def isIndicator (c : Char) : Bool :=
  isFlowMark c || "-?:#&*!|>'\"%@".contains c || c.toNat = 0x60

/-- Whether a plain scalar begins here. -/
def startsPlain (flow : Bool) : List Char → Bool
  | [] => false
  | c :: r =>
    !(isBlank c || isBreak c || isIndicator c) || (c = '-' && !r.head?.any isBlank) ||
      (!flow && (c = '?' || c = ':') && !atBlank r)

/-- Whether a plain scalar ends here, within a line. -/
def endsPlain (flow : Bool) (c : Char) (r : List Char) : Bool :=
  isBlank c || isBreak c || (c = ':' && atBlank r) || (flow && isFlowMark c)

/-- Whether a colon is here that no flow collection may hold. -/
def atFlowColon : List Char → Bool
  | ':' :: c :: _ => isFlowMark c || c = '?'
  | _ => false

/-- The characters of a plain scalar from here on, up to a blank. -/
def plainWord (flow : Bool) : List Char → List Char
  | [] => []
  | c :: r =>
    if endsPlain flow c r || (flow && atFlowColon (c :: r)) then [] else c :: plainWord flow r

/-- A plain scalar that has been read. -/
structure PlainScalar where
  text : List Char
  /-- Whether it was seen to end in a later line than its last character. -/
  broken : Bool
  after : Cursor

/-- Read a plain scalar from one of its words on.  `text` holds what is read, the last character
first, and `gap` what lies between it and this word.  The fuel bounds the words. -/
def plainFrom (flow : Bool) (indent : Int) (start : Mark) :
    Nat → List Char → Gap → Cursor → Except Fault PlainScalar
  | 0, text, gap, c => .ok ⟨text.reverse, gap.broken, c⟩
  | fuel + 1, text, gap, c =>
    let context := some (Activity.plainScalar, start)
    if c.atMarker || c.at? '#' then .ok ⟨text.reverse, gap.broken, c⟩
    else
      let word := plainWord flow c.rest
      let after := c.skip word.length
      let text := if word = [] then text else word.reverse ++ (gap.text.reverse ++ text)
      let gap := if word = [] then gap else {}
      if flow && atFlowColon after.rest then .error (after.fault .colonInFlow context)
      else if after.rest.head?.any fun x => isBlank x || isBreak x then do
        let (gap, c) ←
          Gap.read (indent + 1) (fun c => c.fault .tabInScalar context) after.size {} after
        if !flow && c.mark.column < indent + 1 then return ⟨text.reverse, gap.broken, c⟩
        else plainFrom flow indent start fuel text gap c
      else .ok ⟨text.reverse, gap.broken, after⟩

/-- Read a plain scalar in a block of an indentation. -/
def plainScalar (flow : Bool) (indent : Int) (c : Cursor) : Except Fault PlainScalar :=
  plainFrom flow indent c.mark (c.size + 1) [] {} c

end DriverRegistration.Yaml
