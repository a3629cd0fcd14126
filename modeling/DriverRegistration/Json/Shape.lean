import DriverRegistration.Json.Structure
import DriverRegistration.Json.Value

/-!
# Documents of a known shape

A `Shape` says what a document is made of, and `Shape.read` reads a document of that shape.  A
member that an object knows may be missing, may be null, and may be given again, when the last one
counts; members of other names are passed over.  Nesting is limited, except in what is passed over.
-/

namespace DriverRegistration.Json

/-- What is expected at a place of a document. -/
inductive Shape where
  | text
  | flag
  /-- An integer of a named range. -/
  | integer (name : String) (low high : Int)
  /-- One text only, with what a fault says was expected. -/
  | constant (value expected : String)
  /-- A text that a check may refuse with a reason. -/
  | formatted (expected : String) (check : String → Except String Unit)
  | anything
  | list (item : Shape)
  /-- An object with any keys and values of one shape. -/
  | dict (item : Shape)
  /-- An object with known members. -/
  | object (name : String) (members : List (String × Shape))

namespace Shape

/-- Whether a member may be null, which counts as missing. -/
def nullable : Shape → Bool
  | constant .. => false
  | _ => true

/-- How deep lists and objects may be nested, with one to spare. -/
def depthLimit : Nat := 128

/-- Read what a list or an object holds, unless it is nested too deep. -/
def inside {α : Type} (depth : Nat) (cs : List Char) (inner : Except Fault α) : Except Fault α :=
  if depth = 0 then .error (.next .recursionLimit cs) else inner

/-- Read a text that a check accepts. -/
def checked (expected : String) (check : String → Except String Unit) (cs : List Char) :
    Except Fault (Value × List Char) :=
  match cs with
  | '"' :: r => do
    let (s, rest) ← string r
    match check s with
    | .ok () => return (.text s, rest)
    | .error reason => .error (.here (.badMember reason) rest)
  | r => .error (wrongType expected r)

/-- Judge a number by its range. -/
def inRange (name : String) (low high : Int) (n : Number) (rest : List Char) :
    Except Fault (Value × List Char) :=
  match n with
  | .integer i =>
    if low ≤ i && i ≤ high then .ok (.number n, rest)
    else .error (.here (.wrongValue (.integer i) name) rest)
  | .float x => .error (.here (.wrongType (.float x) name) rest)

/-- Read an integer. -/
def ranged (name : String) (low high : Int) (cs : List Char) :
    Except Fault (Value × List Char) := do
  match cs with
  | '-' :: r =>
    let (n, rest) ← number true r
    inRange name low high n rest
  | r =>
    if startsWithDigit r then
      let (n, rest) ← number false r
      inRange name low high n rest
    else .error (wrongType name r)

/-- Read a truth value. -/
def truth (cs : List Char) : Except Fault (Value × List Char) := do
  match cs with
  | 't' :: r => return (.flag true, ← literal "rue".toList r)
  | 'f' :: r => return (.flag false, ← literal "alse".toList r)
  | r => .error (wrongType "a boolean" r)

/-- Read a value that is neither a list nor an object. -/
def scalar (cs : List Char) : Except Fault (Value × List Char) := do
  match cs with
  | 'n' :: r => return (.null, ← literal "ull".toList r)
  | 't' :: _ | 'f' :: _ => truth cs
  | '"' :: r =>
    let (s, rest) ← string r
    return (.text s, rest)
  | '-' :: r =>
    let (n, rest) ← number true r
    return (.number n, rest)
  | r =>
    if startsWithDigit r then
      let (n, rest) ← number false r
      return (.number n, rest)
    else .error (.next .expectedValue r)

/-- Read the elements of a list. -/
def items (item : List Char → Except Fault (Value × List Char)) (cs : List Char) :
    Except Fault (Value × List Char) := do
  let (vs, rest) ← Json.list item cs
  return (.list vs, rest)

/-- Read the members of an object with any keys. -/
def entries (item : List Char → Except Fault (Value × List Char)) (cs : List Char) :
    Except Fault (Value × List Char) :=
  Json.object entry [] (fun ms => .ok (.object ms)) cs
where
  entry (k : String) (ms : List (String × Value)) (cs : List Char) :
      Except Fault (List (String × Value) × List Char) := do
    let (v, rest) ← item (← colon cs)
    return (setMember k v ms, rest)

/-- Read a member's value that may be null. -/
def orNull (item : List Char → Except Fault (Value × List Char)) (cs : List Char) :
    Except Fault (Value × List Char) := do
  match ← startOfValue cs with
  | 'n' :: r => return (.null, ← literal "ull".toList r)
  | r => item r

/-- Read the members of an object of known members. -/
def known (item : Shape → List Char → Except Fault (Value × List Char))
    (shapes : List (String × Shape)) (cs : List Char) : Except Fault (Value × List Char) :=
  Json.object member [] (fun ms => .ok (.object ms)) cs
where
  member (k : String) (ms : List (String × Value)) (cs : List Char) :
      Except Fault (List (String × Value) × List Char) := do
    let cs ← colon cs
    match shapes.lookup k with
    | none => return (ms, ← ignoredValue cs)
    | some shape =>
      let (v, rest) ← if shape.nullable then orNull (item shape) cs else item shape cs
      return (setMember k v ms, rest)

/-- Read a constant; another text is refused after the object that it stands in. -/
def exactly (value expected : String) (cs : List Char) : Except Fault (Value × List Char) :=
  match cs with
  | '"' :: r => do
    let (s, rest) ← string r
    if s = value then return (.text s, rest)
    else .error (.here (.wrongValue (.text s) expected) (afterBrace rest))
  | r => .error (wrongType "a string" r)

/-- Read a value of a shape, nested at most so deep. -/
def read : Nat → Shape → List Char → Except Fault (Value × List Char)
  | 0, _, cs => .error (.next .recursionLimit cs)
  | depth + 1, shape, cs => do
    let cs ← startOfValue cs
    match shape, cs with
    | text, cs => checked "a string" (fun _ => .ok ()) cs
    | flag, cs => truth cs
    | integer name low high, cs => ranged name low high cs
    | constant value expected, cs => exactly value expected cs
    | formatted expected check, cs => checked expected check cs
    | anything, '[' :: r => inside depth cs (items (read depth anything) r)
    | anything, '\x7b' :: r => inside depth cs (entries (read depth anything) r)
    | anything, cs => scalar cs
    | list item, '[' :: r => inside depth cs (items (read depth item) r)
    | list _, cs => .error (wrongType "a sequence" cs)
    | dict item, '\x7b' :: r => inside depth cs (entries (read depth item) r)
    | dict _, cs => .error (wrongType "a map" cs)
    | object _ members, '\x7b' :: r => inside depth cs (known (read depth) members r)
    | object name _, '[' :: r =>
      inside depth cs (.error (.here (.wrongType .sequence name) (afterBracket r)))
    | object name _, cs => .error (wrongType name cs)

/-- Read a whole document of a shape. -/
def document (shape : Shape) (raw : String) : Except Fault Value := do
  let (v, rest) ← read depthLimit shape raw.toList
  endOfText rest
  return v

end Shape

end DriverRegistration.Json
