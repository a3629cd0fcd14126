import DriverRegistration.Binary64
import Mathlib.Order.Basic
import Mathlib.Tactic.Ring

/-!
# Whole numbers in binary64

A count of units with 53 significant bits at most is its own rounding (`roundUnits_of_bits`).  So
naturals below `2 ^ 53` are values, and a product with a power of two is exact until it is too large
to be finite.  `whole` is a natural taken without rounding; products of powers of two, their powers
by repeated squaring, and comparisons are computed on the naturals themselves (`whole_mul`,
`two_pow_eq_whole`, `min_whole`).  The one thing that breaks the pattern is a zero times a power of
two that is no longer finite, which is not a number (`zero_mul_whole`).
-/

namespace DriverRegistration.Binary64

/-! ## Units -/

/-- The first natural beyond the finite values. -/
def finiteLimit : Nat := Nat.pow 2 1024

theorem pow_mul_unitsPerOne (k : Nat) : 2 ^ k * unitsPerOne = 2 ^ (k + 1074) := by
  unfold unitsPerOne
  generalize 1074 = e
  rw [Nat.pow_eq, Nat.pow_add]

theorem unitsPerOne_pos : 0 < unitsPerOne := by
  unfold unitsPerOne
  generalize 1074 = e
  exact Nat.two_pow_pos e

theorem two_pow_lt_finiteLimit {e : Nat} : 2 ^ e < finiteLimit ↔ e < 1024 := by
  unfold finiteLimit
  generalize 1024 = l
  exact Nat.pow_lt_pow_iff_right (by decide)

theorem unitsLimit_eq : unitsLimit = finiteLimit * unitsPerOne := by
  unfold unitsLimit finiteLimit unitsPerOne
  have hsum : 2098 = 1024 + 1074 := rfl
  rw [hsum]
  generalize 1024 = l
  generalize 1074 = e
  exact Nat.pow_add 2 l e

theorem lt_finiteLimit_of_bits {m : Nat} (hm : m < 2 ^ 53) : m < finiteLimit :=
  hm.trans (two_pow_lt_finiteLimit.2 (by decide))

theorem finiteLimit_pos : 0 < finiteLimit := lt_finiteLimit_of_bits (by decide)

theorem mul_unitsPerOne_lt {a b : Nat} : a * unitsPerOne < b * unitsPerOne ↔ a < b :=
  Nat.mul_lt_mul_right unitsPerOne_pos

/-! ## What rounding keeps -/

theorem log2_sub_le {m : Nat} (hm : m < 2 ^ 53) (k : Nat) : (m * 2 ^ k).log2 - 52 ≤ k := by
  by_cases h : m = 0
  · simp [h]
  · have hne : m * 2 ^ k ≠ 0 := Nat.mul_ne_zero h (Nat.two_pow_pos k).ne'
    have hlt : m * 2 ^ k < 2 ^ (53 + k) := by
      rw [Nat.pow_add]
      exact Nat.mul_lt_mul_of_pos_right hm (Nat.two_pow_pos k)
    have hlog := (Nat.log2_lt hne).2 hlt
    omega

/-- A count of units with 53 significant bits at most needs no rounding. -/
theorem roundUnits_of_bits {m d : Nat} (hm : m < 2 ^ 53) (hd : 0 < d) (k : Nat) :
    roundUnits (m * 2 ^ k * d) d = m * 2 ^ k := by
  have hspacing : spacing (m * 2 ^ k * d) d = 2 ^ ((m * 2 ^ k).log2 - 52) := by
    rw [spacing, Nat.mul_div_cancel _ hd]
    rfl
  obtain ⟨c, hc⟩ : 2 ^ ((m * 2 ^ k).log2 - 52) ∣ m * 2 ^ k :=
    (Nat.pow_dvd_pow 2 (log2_sub_le hm k)).mul_left m
  have hscaled : m * 2 ^ k * d = c * (d * 2 ^ ((m * 2 ^ k).log2 - 52)) := by
    calc m * 2 ^ k * d = 2 ^ ((m * 2 ^ k).log2 - 52) * c * d := congrArg (· * d) hc
      _ = c * (d * 2 ^ ((m * 2 ^ k).log2 - 52)) := by ring
  rw [roundUnits, hspacing, hscaled,
    roundHalfEven_mul c (Nat.mul_pos hd (Nat.two_pow_pos _)), Nat.mul_comm, ← hc]

/-! ## Naturals without rounding -/

/-- A natural as a value, an infinity from the first one that is no longer finite. -/
def whole (n : Nat) : Binary64 :=
  if n < finiteLimit then finite false (n * unitsPerOne) else infinite false

theorem whole_of_lt {n : Nat} (h : n < finiteLimit) : whole n = finite false (n * unitsPerOne) :=
  if_pos h

theorem whole_of_le {n : Nat} (h : finiteLimit ≤ n) : whole n = infinite false :=
  if_neg (Nat.not_lt.2 h)

theorem ofUnits_of_bits {m : Nat} (hm : m < 2 ^ 53) (k : Nat) {d : Nat} (hd : 0 < d) :
    ofUnits false (m * 2 ^ k * unitsPerOne * d) d = whole (m * 2 ^ k) := by
  have hround : roundUnits (m * 2 ^ k * unitsPerOne * d) d = m * 2 ^ k * unitsPerOne := by
    rw [Nat.mul_assoc m, pow_mul_unitsPerOne]
    exact roundUnits_of_bits hm hd (k + 1074)
  rw [ofUnits, hround, whole, unitsLimit_eq]
  by_cases h : m * 2 ^ k < finiteLimit
  · rw [if_pos h, if_pos (mul_unitsPerOne_lt.2 h)]
  · rw [if_neg h, if_neg (mt mul_unitsPerOne_lt.1 h)]

/-- A natural of 53 bits at most is a value. -/
theorem ofNat_eq_whole {m : Nat} (hm : m < 2 ^ 53) : ofNat m = whole m := by
  have h := ofUnits_of_bits hm 0 Nat.one_pos
  rwa [Nat.pow_zero, Nat.mul_one, Nat.mul_one] at h

/-! ## Products -/

theorem mul_eq (a b : Binary64) : a * b = mul a b := rfl

theorem finite_mul_finite (s t : Bool) (u v : Nat) :
    finite s u * finite t v = ofUnits (s != t) (u * v) unitsPerOne := by rw [mul_eq, mul]

theorem infinite_mul_infinite (s t : Bool) : infinite s * infinite t = infinite (s != t) := rfl

theorem infinite_mul_finite (s t : Bool) (u : Nat) :
    infinite s * finite t u = if u = 0 then nan else infinite (s != t) := rfl

theorem finite_mul_infinite (s t : Bool) (u : Nat) :
    finite t u * infinite s = infinite s * finite t u := rfl

theorem infinite_mul_whole {n : Nat} (hn : n ≠ 0) : infinite false * whole n = infinite false := by
  by_cases h : n < finiteLimit
  · rw [whole_of_lt h, infinite_mul_finite, if_neg (Nat.mul_ne_zero hn unitsPerOne_pos.ne')]
    rfl
  · rw [whole_of_le (Nat.not_lt.1 h), infinite_mul_infinite]
    rfl

theorem whole_mul_infinite (n : Nat) : whole n * infinite false = infinite false * whole n := by
  unfold whole
  split
  · exact finite_mul_infinite ..
  · rfl

/-- A product with a power of two is exact, unless it is of a zero with an infinity. -/
theorem whole_mul {m e : Nat} (hm : m < 2 ^ 53) (h : m ≠ 0 ∨ e < 1024) (j : Nat) :
    whole (m * 2 ^ j) * whole (2 ^ e) = whole (m * 2 ^ (j + e)) := by
  have hsum : m * 2 ^ (j + e) = m * 2 ^ j * 2 ^ e := by rw [Nat.pow_add, Nat.mul_assoc]
  by_cases he : e < 1024
  · by_cases hj : m * 2 ^ j < finiteLimit
    · -- Two finite values: their product counts units of units, which is divided once.
      have hunits : m * 2 ^ j * unitsPerOne * (2 ^ e * unitsPerOne) =
          m * 2 ^ (j + e) * unitsPerOne * unitsPerOne := by
        rw [hsum]
        ring
      rw [whole_of_lt hj, whole_of_lt (two_pow_lt_finiteLimit.2 he), finite_mul_finite, hunits]
      exact ofUnits_of_bits hm (j + e) unitsPerOne_pos
    · have hlarge : finiteLimit ≤ m * 2 ^ (j + e) := by
        rw [hsum]
        exact (Nat.not_lt.1 hj).trans (Nat.le_mul_of_pos_right _ (Nat.two_pow_pos e))
      rw [whole_of_le (Nat.not_lt.1 hj), infinite_mul_whole (Nat.two_pow_pos e).ne',
        whole_of_le hlarge]
  · have hpow : finiteLimit ≤ 2 ^ e := Nat.not_lt.1 (mt two_pow_lt_finiteLimit.1 he)
    have hne : m * 2 ^ j ≠ 0 := Nat.mul_ne_zero (h.resolve_right he) (Nat.two_pow_pos j).ne'
    have hlarge : finiteLimit ≤ m * 2 ^ (j + e) := by
      rw [hsum]
      exact hpow.trans (Nat.le_mul_of_pos_left _ (Nat.pos_of_ne_zero hne))
    rw [whole_of_le hpow, whole_mul_infinite, infinite_mul_whole hne, whole_of_le hlarge]

/-- A zero times a power of two that is no longer finite is not a number. -/
theorem zero_mul_whole {e : Nat} (he : 1024 ≤ e) : whole 0 * whole (2 ^ e) = nan := by
  have hpow : finiteLimit ≤ 2 ^ e :=
    Nat.not_lt.1 (mt two_pow_lt_finiteLimit.1 (Nat.not_lt.2 he))
  rw [whole_of_le hpow, whole_mul_infinite, whole_of_lt finiteLimit_pos, infinite_mul_finite,
    if_pos (Nat.zero_mul _)]

theorem whole_pow_mul (a b : Nat) : whole (2 ^ a) * whole (2 ^ b) = whole (2 ^ (a + b)) := by
  have h := whole_mul (e := b) (show 1 < 2 ^ 53 by decide) (.inl Nat.one_ne_zero) a
  rwa [Nat.one_mul, Nat.one_mul] at h

theorem powFrom_whole (a b n : Nat) :
    powFrom (whole (2 ^ a)) (whole (2 ^ b)) n = whole (2 ^ (a + b * n)) := by
  induction n using Nat.strong_induction_on generalizing a b with
  | _ n ih =>
    -- What the step has made of the first factor: it is multiplied if the exponent is odd.
    have hfactor : (if n % 2 = 1 then whole (2 ^ a) * whole (2 ^ b) else whole (2 ^ a)) =
        whole (2 ^ (a + b * (n % 2))) := by
      rcases Nat.mod_two_eq_zero_or_one n with h | h
      · rw [h, if_neg Nat.zero_ne_one, Nat.mul_zero, Nat.add_zero]
      · rw [h, if_pos rfl, Nat.mul_one, whole_pow_mul]
    have hhalves : a + b * n = a + b * (n % 2) + (b + b) * (n / 2) := by
      calc a + b * n = a + b * (n % 2 + 2 * (n / 2)) := by rw [Nat.mod_add_div]
        _ = a + b * (n % 2) + (b + b) * (n / 2) := by ring
    rw [powFrom, hfactor]
    by_cases h : n / 2 = 0
    · rw [if_pos h, hhalves, h, Nat.mul_zero, Nat.add_zero]
    · rw [if_neg h, whole_pow_mul, ih (n / 2) (by omega), ← hhalves]

theorem ofNat_two : (2 : Binary64) = whole (2 ^ 1) := ofNat_eq_whole (by decide)

theorem ofNat_one : (1 : Binary64) = whole (2 ^ 0) := ofNat_eq_whole (by decide)

/-- Powers of two are exact. -/
theorem two_pow_eq_whole (n : Nat) : pow 2 n = whole (2 ^ n) := by
  rw [pow, ofNat_two, ofNat_one, powFrom_whole, Nat.zero_add, Nat.one_mul]

/-! ## Order -/

theorem isNaN_whole (n : Nat) : (whole n).isNaN = false := by
  unfold whole
  split
  · rfl
  · rfl

theorem rank_whole (n : Nat) : (whole n).rank = (Nat.min n finiteLimit * unitsPerOne : Nat) := by
  by_cases h : n < finiteLimit
  · have hmin : Nat.min n finiteLimit = n := Nat.min_eq_left h.le
    rw [whole_of_lt h, hmin]
    rfl
  · have hmin : Nat.min n finiteLimit = finiteLimit := Nat.min_eq_right (Nat.not_lt.1 h)
    rw [whole_of_le (Nat.not_lt.1 h), hmin, ← unitsLimit_eq]
    rfl

/-- The finite one of two naturals is smaller exactly as a natural. -/
theorem rank_whole_lt {a b : Nat} (hb : b < finiteLimit) :
    (whole b).rank < (whole a).rank ↔ b < a := by
  rw [rank_whole, rank_whole, Int.ofNat_lt, mul_unitsPerOne_lt]
  have hmin : Nat.min b finiteLimit = b := Nat.min_eq_left hb.le
  rw [hmin]
  exact lt_min_iff.trans (and_iff_left hb)

/-- The smaller of two naturals, one of which is finite. -/
theorem min_whole (a : Nat) {b : Nat} (hb : b < finiteLimit) :
    min (whole a) (whole b) = whole (Nat.min a b) := by
  rw [min, isNaN_whole, isNaN_whole, if_neg Bool.false_ne_true, if_neg Bool.false_ne_true]
  by_cases h : b < a
  · have hmin : Nat.min a b = b := Nat.min_eq_right h.le
    rw [hmin, if_pos ((rank_whole_lt hb).2 h)]
  · have hmin : Nat.min a b = a := Nat.min_eq_left (Nat.not_lt.1 h)
    rw [hmin, if_neg (mt (rank_whole_lt hb).1 h)]

/-- What is not a number gives way. -/
theorem min_nan (b : Binary64) : min nan b = b := rfl

theorem max_two_one : max 2 1 = 2 := by
  have hrank : ¬ (whole (2 ^ 1)).rank < (whole (2 ^ 0)).rank := by
    rw [rank_whole_lt (two_pow_lt_finiteLimit.2 (by decide))]
    decide
  rw [ofNat_two, ofNat_one, max, isNaN_whole, isNaN_whole, if_neg Bool.false_ne_true,
    if_neg Bool.false_ne_true, if_neg hrank]

/-! ## Back to naturals -/

theorem roundToNat?_zero : (whole 0).roundToNat? = none := by
  rw [whole_of_lt finiteLimit_pos, Nat.zero_mul]
  rfl

theorem roundToNat?_whole {n : Nat} (hn : n ≠ 0) (h : n < finiteLimit) :
    (whole n).roundToNat? = some n := by
  obtain ⟨u, hu⟩ : ∃ u, n * unitsPerOne = u + 1 :=
    Nat.exists_eq_succ_of_ne_zero (Nat.mul_ne_zero hn unitsPerOne_pos.ne')
  have htwo : 2 * (n * unitsPerOne) = n * (2 * unitsPerOne) := Nat.mul_left_comm 2 n unitsPerOne
  have hround : (2 * (n * unitsPerOne) + unitsPerOne) / (2 * unitsPerOne) = n := by
    have hpos := unitsPerOne_pos
    rw [htwo, Nat.div_eq_iff (by omega)]
    omega
  rw [whole_of_lt h, hu, roundToNat?, ← hu, hround]

end DriverRegistration.Binary64
