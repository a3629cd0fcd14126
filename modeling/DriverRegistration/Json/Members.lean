import DriverRegistration.Json.Structure

/-!
# Documents of fixed members

A document with a fixed set of members has each of them exactly once, in any order (`onceOnly`,
`required`), or is the list of their values in order (`nextValue`).
-/

namespace DriverRegistration.Json

/-- Read the value of a member that was not met before. -/
def onceOnly {α : Type} (key : String) (met : Option α)
    (value : List Char → Except Fault (α × List Char)) (cs : List Char) :
    Except Fault (Option α × List Char) :=
  match met with
  | some _ => .error (.here (.duplicateMember key) (afterBrace cs))
  | none => do
    let (a, rest) ← value (← colon cs)
    return (some a, rest)

/-- A member that must have been met. -/
def required {α : Type} (key : String) : Option α → Except Cause α
  | some a => .ok a
  | none => .error (.missingMember key)

/-- Read the next one of the values in a list, of which `count` have been read. -/
def nextValue {α : Type} (expected : String) (count : Nat)
    (value : List Char → Except Fault (α × List Char)) (cs : List Char) :
    Except Fault (α × List Char) := do
  match ← nextElement (count == 0) cs with
  | some rest => value rest
  | none => .error (.here (.wrongLength count expected) (afterBracket cs))

end DriverRegistration.Json
