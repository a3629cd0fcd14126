import DriverRegistration.Wire.Varint
import Mathlib.Algebra.Ring.Nat

/-!
# The bytes of numbers

A number is written by its shortest bytes and read from any that write it.  `Varint` says which
bytes write a number of 64 bits, without a reader; they are read whatever stands behind them, and
nothing else is read as a number (`readVarint?_eq_some_iff`).
-/

namespace DriverRegistration.Wire

/-- Bytes that write a number, seven bits in each, the lowest first.  The last of them may be
zeros. -/
inductive Numeral : List UInt8 → Nat → Prop
  | last {b : UInt8} (hb : b.toNat < 128) : Numeral [b] b.toNat
  | more {b : UInt8} {bytes : List UInt8} {n : Nat} (hb : 128 ≤ b.toNat) (h : Numeral bytes n) :
      Numeral (b :: bytes) (b.toNat - 128 + 128 * n)

/-- Bytes that write a number of 64 bits: there are ten of them at the most. -/
structure Varint (bytes : List UInt8) (n : Nat) : Prop where
  numeral : Numeral bytes n
  length_le : bytes.length ≤ 10
  lt : n < 2 ^ 64

theorem Numeral.length_pos {bytes : List UInt8} {n : Nat} (h : Numeral bytes n) :
    0 < bytes.length := by
  cases h with
  | last => exact Nat.one_pos
  | more => exact Nat.succ_pos _

/-! ## Reading -/

theorem readVarintWithin_append {bytes : List UInt8} {n : Nat} (h : Numeral bytes n) {left : Nat}
    (hleft : bytes.length ≤ left) (hn : n < 2 * 128 ^ (left - 1)) (rest : List UInt8) :
    readVarintWithin left (bytes ++ rest) = some (n, rest) := by
  induction h generalizing left with
  | @last b hb =>
    obtain ⟨left, rfl⟩ : ∃ l, left = l + 1 := ⟨left - 1, by simp at hleft; omega⟩
    -- where this is the last byte that is allowed, it may hold one bit only
    rw [List.singleton_append, readVarintWithin, if_pos hb, if_neg]
    simp only [Bool.and_eq_true, decide_eq_true_eq]
    rintro ⟨rfl, htwo⟩
    simp at hn
    omega
  | @more b bytes n hb h ih =>
    have hpos := h.length_pos
    rw [List.length_cons] at hleft
    obtain ⟨left, rfl⟩ : ∃ l, left = l + 2 := ⟨left - 2, by omega⟩
    have hpow : 128 ^ (left + 2 - 1) = 128 * 128 ^ left := by
      rw [Nat.add_sub_cancel_right (m := 1) (n := left + 1), Nat.pow_succ, Nat.mul_comm]
    rw [hpow] at hn
    have hrest : readVarintWithin (left + 1) (bytes ++ rest) = some (n, rest) :=
      ih (by omega) (by rw [Nat.add_sub_cancel]; omega)
    rw [List.cons_append, readVarintWithin, if_neg (Nat.not_lt.2 hb), hrest]

/-- What is read within some bytes is written by at most so many bytes, and of the last of these
only one bit is used. -/
theorem exists_numeral {left n : Nat} {bytes rest : List UInt8}
    (h : readVarintWithin left bytes = some (n, rest)) :
    ∃ taken, bytes = taken ++ rest ∧ Numeral taken n ∧ taken.length ≤ left ∧
      n < 2 * 128 ^ (left - 1) := by
  induction left generalizing n bytes with
  | zero => cases bytes <;> cases h
  | succ left ih =>
    cases bytes with
    | nil => cases h
    | cons b bytes =>
      rw [readVarintWithin] at h
      split at h
      · next hb =>
        split at h
        · cases h
        · next hlast =>
          obtain ⟨rfl, rfl⟩ := Prod.mk.inj (Option.some.inj h)
          refine ⟨[b], rfl, .last hb, by simp, ?_⟩
          simp only [Bool.and_eq_true, decide_eq_true_eq, not_and, Nat.not_le] at hlast
          rw [Nat.add_sub_cancel]
          rcases Nat.eq_zero_or_pos left with hzero | hpos
          · rw [hzero]
            exact hlast hzero
          · have : 128 ^ 1 ≤ 128 ^ left := Nat.pow_le_pow_right (by decide) hpos
            omega
      · next hb =>
        split at h
        · next m rest' hmore =>
          obtain ⟨rfl, rfl⟩ := Prod.mk.inj (Option.some.inj h)
          obtain ⟨taken, rfl, hnumeral, hlength, hm⟩ := ih hmore
          have hpos := hnumeral.length_pos
          obtain ⟨left, rfl⟩ : ∃ l, left = l + 1 := ⟨left - 1, by omega⟩
          have hb' := b.toNat_lt
          refine ⟨b :: taken, rfl, .more (Nat.not_lt.1 hb) hnumeral, by simpa using hlength, ?_⟩
          rw [Nat.add_sub_cancel] at hm ⊢
          rw [Nat.pow_succ]
          omega
        · cases h

/-- A number is read exactly from the bytes that write it, and what follows them is left. -/
theorem readVarint?_eq_some_iff {bytes rest : List UInt8} {n : Nat} :
    readVarint? bytes = some (n, rest) ↔ ∃ taken, bytes = taken ++ rest ∧ Varint taken n := by
  have hlimit : 2 * 128 ^ (10 - 1) = 2 ^ 64 := rfl
  constructor
  · intro h
    obtain ⟨taken, hbytes, hnumeral, hlength, hn⟩ := exists_numeral h
    exact ⟨taken, hbytes, hnumeral, hlength, hlimit ▸ hn⟩
  · rintro ⟨taken, rfl, h⟩
    exact readVarintWithin_append h.numeral h.length_le (hlimit ▸ h.lt) rest

/-! ## Writing -/

theorem toNat_toUInt8 {n : Nat} (h : n < 256) : n.toUInt8.toNat = n := by
  simp [Nat.mod_eq_of_lt h]

theorem numeral_varint (n : Nat) : Numeral (varint n) n := by
  fun_induction varint n with
  | case1 n h =>
    have hbyte : n.toUInt8.toNat = n := toNat_toUInt8 (by omega)
    have hlast : Numeral [n.toUInt8] n.toUInt8.toNat := .last (by omega)
    rwa [hbyte] at hlast
  | case2 n h ih =>
    have hbyte : (n % 128 + 128).toUInt8.toNat = n % 128 + 128 := toNat_toUInt8 (by omega)
    have hmore := Numeral.more (b := (n % 128 + 128).toUInt8) (by omega) ih
    rwa [hbyte, Nat.add_sub_cancel, Nat.mod_add_div] at hmore

theorem length_varint_le {n k : Nat} (h : n < 128 ^ (k + 1)) : (varint n).length ≤ k + 1 := by
  induction k generalizing n with
  | zero =>
    rw [varint, if_pos (by simpa using h)]
    exact Nat.le_refl 1
  | succ k ih =>
    rw [varint]
    split
    · exact Nat.succ_le_succ (Nat.zero_le _)
    · rw [Nat.pow_succ] at h
      exact Nat.succ_le_succ (ih (by omega))

theorem varint_varint {n : Nat} (h : n < 2 ^ 64) : Varint (varint n) n :=
  ⟨numeral_varint n, length_varint_le (k := 9) (Nat.lt_of_lt_of_le h (by decide)), h⟩

end DriverRegistration.Wire
