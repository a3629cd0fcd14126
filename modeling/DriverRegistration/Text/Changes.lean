/-!
# Classes of characters as lists of changes

A class is kept as the sorted list of the code points at which membership changes, so a code point
is in it when an odd number of changes lie at or before it.
-/

namespace DriverRegistration.Text

/-- How many of some sorted numbers lie at or before `n`, by halving the span `[lo, hi)` `fuel`
times. -/
def countUpTo (changes : Array Nat) (n : Nat) : Nat → Nat → Nat → Nat
  | 0, lo, _ => lo
  | fuel + 1, lo, hi =>
    if lo < hi then
      let mid := (lo + hi) / 2
      if changes.getD mid 0 ≤ n then countUpTo changes n fuel (mid + 1) hi
      else countUpTo changes n fuel lo mid
    else lo

/-- Whether a character is in the class of some changes, of which there are less than 4096. -/
def inClass (changes : Array Nat) (c : Char) : Bool :=
  countUpTo changes c.toNat 12 0 changes.size % 2 = 1

end DriverRegistration.Text
