import DriverRegistration.Binary64.Decimal
import DriverRegistration.Text.Blank
import DriverRegistration.Text.Letter

/-!
# Patterns for field values

A log filter may ask for the value of a field: a truth value, a number, or a pattern that the value
must match.  Here a pattern is only judged: its groups and classes are closed, what is repeated is
there, and its escapes are known.  A counted repetition is never closed, since a closing brace ends
the field.
-/

namespace DriverRegistration.Pattern

/-- How the characters of a pattern are read; a group may change it up to its end. -/
structure Reading where
  /-- Whether blanks and comments between the parts are passed over. -/
  spaced : Bool := false
  /-- Whether classes are of all characters, and not of ASCII alone. -/
  unicode : Bool := true
  deriving DecidableEq, Repr

/-- What remains after blanks and comments; a comment ends with its line. -/
def afterBlanks (comment : Bool) : List Char → List Char
  | [] => []
  | c :: r =>
    if comment then afterBlanks (c ≠ '\n') r
    else if Text.isBlank c then afterBlanks false r
    else if c = '#' then afterBlanks true r
    else c :: r

/-- What remains where a part may begin. -/
def Reading.next (d : Reading) (cs : List Char) : List Char :=
  if d.spaced then afterBlanks false cs else cs

/-! ## Escapes -/

/-- What a part of a pattern without structure stands for. -/
inductive Atom where
  | char (c : Char)
  | set
  /-- A condition on the place, such as the end of the text. -/
  | place
  deriving DecidableEq, Repr

/-- The value of a hexadecimal digit. -/
def hexDigit? (c : Char) : Option Nat :=
  if c.isDigit then some (c.toNat - '0'.toNat)
  else if 'a' ≤ c && c ≤ 'f' then some (c.toNat - 'a'.toNat + 10)
  else if 'A' ≤ c && c ≤ 'F' then some (c.toNat - 'A'.toNat + 10)
  else none

/-- Read so many hexadecimal digits after those of value `n`. -/
def hexNumber? (d : Reading) (n : Nat) : Nat → List Char → Option (Nat × List Char)
  | 0, cs => some (n, cs)
  | _ + 1, [] => none
  | count + 1, c :: r =>
    match hexDigit? c with
    | some digit => hexNumber? d (n * 16 + digit) count (d.next r)
    | none => none

/-- Read the character of so many hexadecimal digits.  Two digits name a byte where classes are of
ASCII alone, and a byte beyond ASCII is no character. -/
def hexChar? (d : Reading) (count : Nat) (cs : List Char) : Option (Atom × List Char) :=
  match hexNumber? d 0 count (d.next cs) with
  | some (n, r) =>
    if n.isValidChar && (d.unicode || count ≠ 2 || n < 0x80) then some (.char (Char.ofNat n), r)
    else none
  | none => none

/-- The general categories of one letter. -/
def isCategory (c : Char) : Bool := "clmnpsz".contains c.toLower

/-- The controls with an escape of their own. -/
def control? (c : Char) : Option Char :=
  [('a', '\x07'), ('f', '\x0c'), ('t', '\t'), ('n', '\n'), ('r', '\r'), ('v', '\x0b')].lookup c

/-- Read what stands after a backslash.  Conditions on words are known for ASCII alone. -/
def escape? (d : Reading) : List Char → Option (Atom × List Char)
  | [] => none
  | c :: r =>
    if c = 'x' then hexChar? d 2 r
    else if c = 'u' then hexChar? d 4 r
    else if c = 'U' then hexChar? d 8 r
    else if c = 'p' || c = 'P' then
      match d.next r with
      | category :: rest =>
        if isCategory category && d.unicode then some (.set, d.next rest) else none
      | [] => none
    else if c = 'd' || c = 's' || c = 'w' then some (.set, r)
    else if c = 'D' || c = 'S' || c = 'W' then if d.unicode then some (.set, r) else none
    else if c = 'b' || c = 'B' || c = '<' || c = '>' then
      if d.unicode then none else some (.place, r)
    else if c = 'A' || c = 'z' then some (.place, r)
    else
      match control? c with
      | some e => some (.char e, r)
      | none => if c.toNat < 0x80 && !c.isAlphanum then some (.char c, r) else none

/-! ## Classes -/

/-- The names of classes of ASCII. -/
def asciiClasses : List String :=
  ["alnum", "alpha", "ascii", "blank", "cntrl", "digit", "graph", "lower", "print", "punct",
    "space", "upper", "word", "xdigit"]

/-- Read the name of a class of ASCII, from just after its opening bracket. -/
def asciiClass? : List Char → Option (List Char)
  | ':' :: r =>
    let r := match r with
      | '^' :: r => r
      | r => r
    match r.dropWhile (· ≠ ':') with
    | ':' :: ']' :: rest =>
      if asciiClasses.contains (String.ofList (r.takeWhile (· ≠ ':'))) then some rest else none
    | _ => none
  | _ => none

/-- Read a character or an escape of a class. -/
def classItem? (d : Reading) : List Char → Option (Atom × List Char)
  | [] => none
  | c :: r => if c = '\\' then escape? d r else some (.char c, r)

/-- Whether a character may be in a class. -/
def Reading.knows (d : Reading) (c : Char) : Bool := d.unicode || c.toNat < 0x80

/-- Read an item of a class or a range of two.  A dash before a closing bracket or before another
dash makes no range. -/
def classPart? (d : Reading) (cs : List Char) : Option (List Char) :=
  (classItem? d cs).bind fun (first, r) =>
    let alone (rest : List Char) : Option (List Char) :=
      match first with
      | .char c => if d.knows c then some rest else none
      | .set => some rest
      | .place => none
    match d.next r with
    | [] => none
    | '-' :: r =>
      match d.next r with
      | [] => none
      | c :: cs =>
        if c = ']' || c = '-' then alone ('-' :: r)
        else
          match first, classItem? d (c :: cs) with
          | .char a, some (.char b, rest) =>
            if a ≤ b && d.knows a && d.knows b then some rest else none
          | _, _ => none
    | rest => alone rest

/-- Where in a class something stands: a closing bracket that comes first and the dashes before all
else stand for themselves. -/
inductive ClassPlace where
  | first
  | afterDash
  | inside
  deriving DecidableEq, Repr

/-- Read what follows an opening bracket at once. -/
def classStart? (d : Reading) (cs : List Char) : Option (List Char) :=
  match d.next cs with
  | '^' :: r => if d.unicode then some r else none
  | r => some r

/-- Whether two characters combine two classes. -/
def isCombination (a b : Char) : Bool := a = b && (a = '&' || a = '-' || a = '~')

/-- The characters after a class, with so many classes open in one another. -/
def afterClass? (d : Reading) : Nat → Nat → ClassPlace → List Char → Option (List Char)
  | 0, _, _, _ => none
  | fuel + 1, depth, place, cs =>
    match d.next cs with
    | [] => none
    | c :: r =>
      if c = '-' && place ≠ .inside then afterClass? d fuel depth .afterDash r
      else if c = ']' then
        if place = .first then afterClass? d fuel depth .inside r
        else if depth ≤ 1 then some r
        else afterClass? d fuel (depth - 1) .inside r
      else if c = '[' then
        match asciiClass? r with
        | some rest => afterClass? d fuel depth .inside rest
        | none => (classStart? d r).bind (afterClass? d fuel (depth + 1) .first)
      else if r.head?.any (isCombination c) then afterClass? d fuel depth .inside (r.drop 1)
      else (classPart? d (c :: r)).bind (afterClass? d fuel depth .inside)

/-- Read a class from just after its opening bracket. -/
def class? (d : Reading) (cs : List Char) : Option (List Char) :=
  (classStart? d cs).bind (afterClass? d (cs.length + 1) 1 .first)

/-! ## Groups -/

/-- What a group begins with. -/
inductive GroupStart where
  /-- A group under a name or under none. -/
  | opened (name : Option String) (reading : Reading)
  /-- A change for the rest of the group around it. -/
  | changed (reading : Reading)

/-- Whether a name may go on with a character. -/
def continuesName (c : Char) : Bool :=
  c = '_' || c = '.' || c = '[' || c = ']' || Text.isLetter c

/-- Read the name of a group and the bracket after it. -/
def groupName? (d : Reading) (cs : List Char) : Option (GroupStart × List Char) :=
  let name := cs.takeWhile (· ≠ '>')
  match name, cs.drop name.length with
  | c :: rest, _ :: r =>
    if (c = '_' || Text.isLetter c) && !c.isDigit && rest.all continuesName then
      some (.opened (some (String.ofList name)) d, r)
    else none
  | _, _ => none

/-- The letters of flags, and the sign that takes away those after it. -/
def isFlag (c : Char) : Bool := "imsUuRx-".contains c

/-- What flags say about one of them. -/
def flagIn (flags : List Char) (flag : Char) (before : Bool) : Bool :=
  if (flags.takeWhile (· ≠ '-')).contains flag then true
  else if flags.contains flag then false
  else before

/-- Read flags and what ends them: none twice, and something after the sign. -/
def flags? (d : Reading) (cs : List Char) : Option (GroupStart × List Char) :=
  let flags := cs.takeWhile fun c => c ≠ ':' && c ≠ ')'
  let reading : Reading := ⟨flagIn flags 'x' d.spaced, flagIn flags 'u' d.unicode⟩
  if flags.all isFlag && flags.Nodup && flags.getLast? ≠ some '-' then
    match cs.drop flags.length with
    | ':' :: r => some (.opened none reading, r)
    | _ :: r => if flags = [] then none else some (.changed reading, r)
    | [] => none
  else none

/-- Read what follows an opening parenthesis. -/
def groupStart? (d : Reading) (cs : List Char) : Option (GroupStart × List Char) :=
  match d.next cs with
  | '?' :: 'P' :: '<' :: r => groupName? d r
  | '?' :: '<' :: r => groupName? d r
  | '?' :: r => flags? d r
  | r => some (.opened none d, r)

/-! ## Patterns -/

/-- What is known about a pattern up to some place. -/
structure Place where
  reading : Reading := {}
  /-- How each open group is left, the innermost first. -/
  groups : List Reading := []
  names : List String := []
  /-- Whether something stands before the place that can be repeated. -/
  repeatable : Bool := false

/-- Judge the rest of a pattern; the fuel bounds the steps. -/
def judged : Nat → Place → List Char → Bool
  | 0, _, _ => false
  | fuel + 1, p, cs =>
    match p.reading.next cs with
    | [] => p.groups.isEmpty
    | c :: r =>
      if c = '(' then
        match groupStart? p.reading r with
        | some (.opened name reading, rest) =>
          !name.any p.names.contains &&
            judged fuel ⟨reading, p.reading :: p.groups, name.toList ++ p.names, false⟩ rest
        | some (.changed reading, rest) =>
          judged fuel { p with reading, repeatable := false } rest
        | none => false
      else if c = ')' then
        match p.groups with
        | reading :: groups => judged fuel { p with reading, groups, repeatable := true } r
        | [] => false
      else if c = '|' then judged fuel { p with repeatable := false } r
      else if c = '?' || c = '*' || c = '+' then
        p.repeatable && judged fuel p (if r.head? = some '?' then r.drop 1 else r)
      else if c = '\x7b' then false
      else
        let rest :=
          if c = '[' then class? p.reading r
          else if c = '\\' then (escape? p.reading r).map (·.2)
          else if c = '.' && !p.reading.unicode then none
          else some r
        rest.any (judged fuel { p with repeatable := true })

/-- Whether a value that a filter asks for can be understood. -/
def isValid (value : String) : Bool :=
  value = "true" || value = "false" || (Binary64.ofText? value).isSome ||
    judged (value.length + 1) {} value.toList

end DriverRegistration.Pattern
