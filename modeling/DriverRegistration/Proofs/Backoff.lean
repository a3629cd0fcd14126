import DriverRegistration.Proofs.Binary64
import DriverRegistration.RetryPolicy

/-!
# Pauses that double

With a growth factor of two and pauses below `2 ^ 53` nanoseconds the pause after an attempt is
exact: the first pause, doubled with every attempt, up to the longest pause (`scaled_eq`).  Neither
the power, which is an infinity from attempt 1025 on, nor the limit of the exponent shows, since the
longest pause caps both.

A first pause of zero is the exception.  Times an infinity it is not a number, which gives way to
the longest pause: from attempt 1025 on the pause is the longest one instead of none
(`scaled_of_zero`).
-/

namespace DriverRegistration.RetryPolicy

open Binary64

variable {p : RetryPolicy} {attempt : Nat}

/-- The exponent of the power after an attempt. -/
def exponent (attempt : Nat) : Nat := Nat.min (attempt - 1) exponentLimit

/-- The pause in nanoseconds that doubling asks for. -/
def doubled (p : RetryPolicy) (attempt : Nat) : Nat :=
  min (p.initialBackoff.nanos * 2 ^ (attempt - 1)) p.maxBackoff.nanos

theorem exponent_lt_iff : exponent attempt < 1024 ↔ attempt ≤ 1024 := by
  have hlimit : ¬ exponentLimit < 1024 := by decide
  have hmin : exponent attempt < 1024 ↔ attempt - 1 < 1024 ∨ exponentLimit < 1024 := min_lt_iff
  omega

/-- The limit of the exponent does not show. -/
theorem min_exponent (h : p.maxBackoff.nanos < finiteLimit) :
    Nat.min (p.initialBackoff.nanos * 2 ^ exponent attempt) p.maxBackoff.nanos =
      p.doubled attempt := by
  by_cases hlimit : attempt - 1 ≤ exponentLimit
  · have hexponent : exponent attempt = attempt - 1 := Nat.min_eq_left hlimit
    rw [hexponent]
    rfl
  · have hexponent : exponent attempt = exponentLimit :=
      Nat.min_eq_right (Nat.le_of_not_le hlimit)
    rw [hexponent, doubled]
    by_cases hzero : p.initialBackoff.nanos = 0
    · rw [hzero, Nat.zero_mul, Nat.zero_mul]
    · -- Both powers are beyond the longest pause.
      have hbeyond {e : Nat} (he : 1024 ≤ e) :
          p.maxBackoff.nanos ≤ p.initialBackoff.nanos * 2 ^ e := by
        have hpow : finiteLimit ≤ 2 ^ e :=
          Nat.not_lt.1 (mt two_pow_lt_finiteLimit.1 (Nat.not_lt.2 he))
        exact h.le.trans (hpow.trans (Nat.le_mul_of_pos_left _ (Nat.pos_of_ne_zero hzero)))
      have hmany : 1024 ≤ exponentLimit := by decide
      exact (min_eq_right (hbeyond hmany)).trans (min_eq_right (hbeyond (by omega))).symm

theorem scaled_eq_min (hfactor : p.factor = 2) (hinitial : p.initialBackoff.nanos < 2 ^ 53)
    (hmax : p.maxBackoff.nanos < 2 ^ 53) :
    p.scaled attempt =
      Binary64.min (whole p.initialBackoff.nanos * whole (2 ^ exponent attempt))
        (whole p.maxBackoff.nanos) := by
  rw [scaled, hfactor, max_two_one, two_pow_eq_whole, ofNat_eq_whole hinitial, ofNat_eq_whole hmax,
    exponent]

/-- The pause before rounding is what doubling asks for. -/
theorem scaled_eq (hfactor : p.factor = 2) (hinitial : p.initialBackoff.nanos < 2 ^ 53)
    (hmax : p.maxBackoff.nanos < 2 ^ 53) (h : p.initialBackoff.nanos ≠ 0 ∨ attempt ≤ 1024) :
    p.scaled attempt = whole (p.doubled attempt) := by
  have hfinite : p.maxBackoff.nanos < finiteLimit := lt_finiteLimit_of_bits hmax
  have hproduct := whole_mul hinitial (h.imp_right exponent_lt_iff.2) 0
  rw [Nat.pow_zero, Nat.mul_one, Nat.zero_add] at hproduct
  rw [scaled_eq_min hfactor hinitial hmax, hproduct, min_whole _ hfinite, min_exponent hfinite]

/-- A first pause of zero gives way to the longest pause. -/
theorem scaled_of_zero (hfactor : p.factor = 2) (hmax : p.maxBackoff.nanos < 2 ^ 53)
    (hzero : p.initialBackoff.nanos = 0) (h : 1024 < attempt) :
    p.scaled attempt = whole p.maxBackoff.nanos := by
  have hexponent : 1024 ≤ exponent attempt :=
    Nat.not_lt.1 (mt exponent_lt_iff.1 (Nat.not_le.2 h))
  rw [scaled_eq_min hfactor (hzero ▸ Nat.two_pow_pos 53) hmax, hzero, zero_mul_whole hexponent,
    min_nan]

/-- The pause of a rounded number of nanoseconds, which has 64 bits at most. -/
def pauseOf (nanos : Option Nat) : Duration := ⟨Nat.min (nanos.getD 0) 18446744073709551615⟩

/- The definition is opened as a function and not at a policy: there the two sides would be compared
by computing the power. -/
theorem baseDelay_eq : baseDelay = fun p attempt => pauseOf (p.scaled attempt).roundToNat? := by
  delta baseDelay
  funext p attempt
  generalize (p.scaled attempt).roundToNat? = nanos
  cases nanos with
  | none => rfl
  | some n => rfl

/-- A pause that is a natural of 53 bits at most is taken as it is. -/
theorem baseDelay_of_scaled {n : Nat} (hscaled : p.scaled attempt = whole n) (hn : n < 2 ^ 53) :
    p.baseDelay attempt = ⟨n⟩ := by
  simp only [baseDelay_eq]
  rw [hscaled]
  by_cases hzero : n = 0
  · rw [hzero, roundToNat?_zero]
    rfl
  · rw [roundToNat?_whole hzero (lt_finiteLimit_of_bits hn)]
    have hcast : n ≤ 18446744073709551615 := by omega
    exact congrArg Duration.mk (Nat.min_eq_left hcast)

/-- With a growth factor of two, pauses are doubled from attempt to attempt up to the longest one,
which none exceeds.  The exception is a first pause of zero: it is zero until the power of two is no
longer finite, from the 1025th attempt on, and there the pause is the longest one. -/
theorem baseDelay_doubles (hfactor : p.factor = 2) (hinitial : p.initialBackoff.nanos < 2 ^ 53)
    (hmax : p.maxBackoff.nanos < 2 ^ 53) (attempt : Nat) :
    (p.baseDelay attempt).nanos ≤ p.maxBackoff.nanos ∧
    ((p.baseDelay attempt).nanos = p.doubled attempt ↔
      p.initialBackoff.nanos ≠ 0 ∨ p.maxBackoff.nanos = 0 ∨ attempt ≤ 1024) ∧
    (p.initialBackoff.nanos = 0 → 1024 < attempt → p.baseDelay attempt = p.maxBackoff) := by
  have hdoubled : p.doubled attempt ≤ p.maxBackoff.nanos := min_le_right _ _
  have hlongest (hzero : p.initialBackoff.nanos = 0) (h : 1024 < attempt) :
      p.baseDelay attempt = p.maxBackoff :=
    baseDelay_of_scaled (scaled_of_zero hfactor hmax hzero h) hmax
  by_cases h : p.initialBackoff.nanos ≠ 0 ∨ attempt ≤ 1024
  · have hexact : p.baseDelay attempt = ⟨p.doubled attempt⟩ :=
      baseDelay_of_scaled (scaled_eq hfactor hinitial hmax h) (hdoubled.trans_lt hmax)
    refine ⟨?_, ?_, hlongest⟩
    · rw [hexact]
      exact hdoubled
    · rw [hexact]
      exact iff_of_true rfl (h.imp_right .inr)
  · obtain ⟨hzero, hlate⟩ := not_or.1 h
    have hzero := not_not.1 hzero
    have hnone : p.doubled attempt = 0 := by
      rw [doubled, hzero, Nat.zero_mul, Nat.zero_min]
    rw [hlongest hzero (Nat.not_le.1 hlate), hnone]
    exact ⟨le_rfl, ⟨fun hmax => .inr (.inl hmax), fun h => by omega⟩, fun _ _ => rfl⟩

/-- The pause after the fifth attempt under the standard policy. -/
theorem baseDelay_doubles_of_standard :
    standard.factor = 2 ∧ (standard.baseDelay 5).nanos = 160000000 := by
  have hfactor : standard.factor = 2 := rfl
  obtain ⟨-, hexact, -⟩ := baseDelay_doubles hfactor (by decide) (by decide) 5
  exact ⟨hfactor, hexact.2 (.inl (by decide))⟩

/-- A policy that begins without any pause. -/
def eager : RetryPolicy := { standard with initialBackoff := .zero }

/-- A policy that begins without any pause makes one of a second after 1025 attempts. -/
theorem baseDelay_eager :
    eager.factor = 2 ∧ eager.initialBackoff = .zero ∧ eager.maxBackoff = .ofSeconds 1 ∧
      eager.doubled 1025 = 0 ∧ eager.baseDelay 1025 = .ofSeconds 1 := by
  have hscaled : eager.scaled 1025 = whole eager.maxBackoff.nanos :=
    scaled_of_zero rfl (by decide) rfl (by decide)
  have hnone : eager.doubled 1025 = 0 := by
    rw [doubled, eager, Duration.zero, Nat.zero_mul, Nat.zero_min]
  exact ⟨rfl, rfl, rfl, hnone, baseDelay_of_scaled hscaled (by decide)⟩

end DriverRegistration.RetryPolicy
