/-!
# Integers in texts

An integer is written in decimal digits with an optional sign.  Digits are read one after another,
so what comes after a number that is too large is not looked at.
-/

namespace DriverRegistration.Text

/-- Why digits are no integer. -/
inductive IntegerFault where
  | empty
  | invalidDigit
  | tooLarge
  | tooSmall
  deriving DecidableEq, Repr

/-- The text of a fault. -/
def IntegerFault.message : IntegerFault → String
  | empty => "cannot parse integer from empty string"
  | invalidDigit => "invalid digit found in string"
  | tooLarge => "number too large to fit in target type"
  | tooSmall => "number too small to fit in target type"

/-- Read digits one after another, as long as the number stays within a limit. -/
def digits (limit : Nat) (beyond : IntegerFault) : Nat → List Char → Except IntegerFault Nat
  | n, [] => .ok n
  | n, c :: cs =>
    if c.isDigit then
      if n * 10 + (c.toNat - 48) ≤ limit then digits limit beyond (n * 10 + (c.toNat - 48)) cs
      else .error beyond
    else .error .invalidDigit

/-- Read an integer of 64 bits, with an optional sign. -/
def signed (cs : List Char) : Except IntegerFault Int :=
  match cs with
  | [] => .error .empty
  | ['+'] | ['-'] => .error .invalidDigit
  | '-' :: r => (digits 9223372036854775808 .tooSmall 0 r).map fun n => -(n : Int)
  | '+' :: r => (digits 9223372036854775807 .tooLarge 0 r).map Int.ofNat
  | r => (digits 9223372036854775807 .tooLarge 0 r).map Int.ofNat

/-- Read a natural up to a limit, with an optional sign. -/
def natural (limit : Nat) (cs : List Char) : Except IntegerFault Nat :=
  match cs with
  | [] => .error .empty
  | ['+'] => .error .invalidDigit
  | '+' :: r => digits limit .tooLarge 0 r
  | r => digits limit .tooLarge 0 r

end DriverRegistration.Text
