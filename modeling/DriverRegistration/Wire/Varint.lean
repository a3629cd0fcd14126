/-!
# Variable-length numbers

A number is written in bytes of seven bits each, the lowest first; every byte but the last has its
high bit set.  A number of 64 bits takes at most ten bytes, of which the tenth holds a single bit.
-/

namespace DriverRegistration.Wire

/-- The bytes of a number. -/
def varint (n : Nat) : List UInt8 :=
  if n < 128 then [n.toUInt8] else (n % 128 + 128).toUInt8 :: varint (n / 128)
termination_by n
decreasing_by omega

/-- Read a number of at most so many bytes.  In the last of them only the lowest bit may be set. -/
def readVarintWithin : Nat → List UInt8 → Option (Nat × List UInt8)
  | 0, _ | _ + 1, [] => none
  | left + 1, b :: bytes =>
    if b.toNat < 128 then
      if left = 0 && 2 ≤ b.toNat then none else some (b.toNat, bytes)
    else
      match readVarintWithin left bytes with
      | some (n, rest) => some (b.toNat - 128 + 128 * n, rest)
      | none => none

/-- Read a number; gives it and the bytes after it. -/
def readVarint? (bytes : List UInt8) : Option (Nat × List UInt8) := readVarintWithin 10 bytes

end DriverRegistration.Wire
