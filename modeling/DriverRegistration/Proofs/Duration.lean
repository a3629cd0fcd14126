import DriverRegistration.Duration
import Mathlib.Data.List.TakeWhile
import Mathlib.Data.Nat.Digits.Defs

/-!
# The texts of durations

`Duration.Spells` says which texts spell which durations, without a reader: one digit or more and
the name of a unit, between blanks.  The number of the digits is their positional value (`number`),
and what it amounts to in a unit is exact (`Amount`), as long as the number and its seconds have 64
bits at most.  A text is read exactly if it spells a duration, and then as that duration; every
other one is refused (`parse_grammar`).
-/

namespace DriverRegistration

namespace Text

/-! ## Trimming -/

/-- What has no blanks is what remains of it between blanks. -/
theorem trim_between {before core after : List Char} (hbefore : ∀ c ∈ before, isBlank c = true)
    (hcore : ∀ c ∈ core, isBlank c = false) (hafter : ∀ c ∈ after, isBlank c = true) :
    trim (before ++ (core ++ after)) = core := by
  have hkept (rest cs : List Char) (hcs : ∀ c ∈ cs, isBlank c = false) (hne : cs ≠ []) :
      (cs ++ rest).dropWhile isBlank = cs ++ rest := by
    obtain ⟨c, cs, rfl⟩ := List.exists_cons_of_ne_nil hne
    exact List.dropWhile_cons_of_neg (by simp [hcs c List.mem_cons_self])
  rw [trim, List.dropWhile_append_of_pos hbefore]
  by_cases hne : core = []
  · rw [hne, List.nil_append, List.dropWhile_eq_nil_iff.2 hafter]
    rfl
  · have hreverse : ∀ c ∈ core.reverse, isBlank c = false := fun c hc =>
      hcore c (List.mem_reverse.1 hc)
    have hblank : ∀ c ∈ after.reverse, isBlank c = true := fun c hc =>
      hafter c (List.mem_reverse.1 hc)
    have hlast := hkept [] core.reverse hreverse (mt List.reverse_eq_nil_iff.1 hne)
    rw [List.append_nil] at hlast
    rw [hkept after core hcore hne, List.reverse_append, List.dropWhile_append_of_pos hblank, hlast,
      List.reverse_reverse]

/-- Every text is what remains of it, between blanks. -/
theorem exists_trim (cs : List Char) :
    ∃ before after, (∀ c ∈ before, isBlank c = true) ∧ (∀ c ∈ after, isBlank c = true) ∧
      cs = before ++ (trim cs ++ after) := by
  have hblank (ds : List Char) : ∀ c ∈ ds.takeWhile isBlank, isBlank c = true := fun c hc =>
    List.mem_takeWhile_imp hc
  refine ⟨cs.takeWhile isBlank, ((cs.dropWhile isBlank).reverse.takeWhile isBlank).reverse,
    hblank cs, fun c hc => hblank _ c (List.mem_reverse.1 hc), ?_⟩
  rw [trim, ← List.reverse_append, List.takeWhile_append_dropWhile, List.reverse_reverse,
    List.takeWhile_append_dropWhile]

end Text

namespace Duration

open Text

/-! ## The grammar -/

/-- The number that decimal digits write, by the value of their places. -/
def number (digits : List Char) : Nat :=
  Nat.ofDigits 10 (digits.map fun c => c.toNat - '0'.toNat).reverse

/-- What a number amounts to in nanoseconds with the name of a unit after it. -/
inductive Amount (n : Nat) : List Char → Nat → Prop
  | millis : Amount n ['m', 's'] (n * 10 ^ 6)
  | unnamed : Amount n [] (n * 10 ^ 9)
  | seconds : Amount n ['s'] (n * 10 ^ 9)
  /-- The seconds of the minutes have 64 bits at most. -/
  | minutes (hn : n * 60 < 2 ^ 64) : Amount n ['m'] (n * 60 * 10 ^ 9)
  /-- The seconds of the hours have 64 bits at most. -/
  | hours (hn : n * 3600 < 2 ^ 64) : Amount n ['h'] (n * 3600 * 10 ^ 9)

/-- A text without blanks around it that spells a duration. -/
inductive Reads : List Char → Duration → Prop
  | intro {digits unit : List Char} {nanos : Nat} (hne : digits ≠ [])
      (hdigits : ∀ c ∈ digits, c.isDigit = true) (hn : number digits < 2 ^ 64)
      (hamount : Amount (number digits) unit nanos) : Reads (digits ++ unit) ⟨nanos⟩

/-- A text that spells a duration. -/
inductive Spells : String → Duration → Prop
  | intro {raw : String} {before core after : List Char} {d : Duration}
      (hbefore : ∀ c ∈ before, isBlank c = true) (hcore : Reads core d)
      (hafter : ∀ c ∈ after, isBlank c = true)
      (hraw : raw.toList = before ++ (core ++ after)) : Spells raw d

/-! ## Numbers and units -/

theorem digitsValue_eq_number (digits : List Char) : digitsValue digits = number digits := by
  rw [number, Nat.ofDigits_eq_foldr, List.foldr_reverse, List.foldl_map, digitsValue]
  congr 1
  funext n c
  rw [Nat.mul_comm, Nat.add_comm]
  rfl

theorem Amount.mem_unit {n nanos : Nat} {unit : List Char} (h : Amount n unit nanos) :
    ∀ c ∈ unit, c = 'm' ∨ c = 's' ∨ c = 'h' := by
  cases h with
  | millis => simp
  | unnamed => simp
  | seconds => simp
  | minutes => simp
  | hours => simp

theorem ofList_eq_iff {cs : List Char} {s : String} : String.ofList cs = s ↔ cs = s.toList := by
  constructor
  · rintro rfl
    exact String.toList_ofList.symm
  · rintro rfl
    exact String.ofList_toList

theorem unit_of_name {unit : List Char} {u : TimeUnit}
    (h : TimeUnit.ofName? (String.ofList unit) = some u) :
    (unit = ['m', 's'] ∧ u = .millis) ∨ ((unit = [] ∨ unit = ['s']) ∧ u = .seconds) ∨
      (unit = ['m'] ∧ u = .minutes) ∨ (unit = ['h'] ∧ u = .hours) := by
  simp only [TimeUnit.ofName?, ofList_eq_iff, Bool.or_eq_true, decide_eq_true_eq] at h
  split at h
  · next hunit => exact .inl ⟨hunit, (Option.some.inj h).symm⟩
  · split at h
    · next hunit => exact .inr (.inl ⟨hunit, (Option.some.inj h).symm⟩)
    · split at h
      · next hunit => exact .inr (.inr (.inl ⟨hunit, (Option.some.inj h).symm⟩))
      · split at h
        · next hunit => exact .inr (.inr (.inr ⟨hunit, (Option.some.inj h).symm⟩))
        · cases h

theorem ofUnit?_eq_some_iff {n per nanos : Nat} {u : TimeUnit} (hper : u.seconds? = some per) :
    ofUnit? n u = some ⟨nanos⟩ ↔ n * per < 2 ^ 64 ∧ n * per * 10 ^ 9 = nanos := by
  have hlimit : limit = 2 ^ 64 := rfl
  simp only [ofUnit?, hper, hlimit]
  by_cases h : n * per < 2 ^ 64
  · rw [if_pos h, Option.some_inj, ofSeconds, Duration.mk.injEq]
    exact (and_iff_right h).symm
  · rw [if_neg h]
    exact iff_of_false nofun fun hfits => h hfits.1

/-- The units that are read amount to what the grammar says. -/
theorem amount_iff {n nanos : Nat} {unit : List Char} (hn : n < 2 ^ 64) :
    Amount n unit nanos ↔
      ∃ u, TimeUnit.ofName? (String.ofList unit) = some u ∧ ofUnit? n u = some ⟨nanos⟩ := by
  have hone : n * 1 < 2 ^ 64 := by rwa [Nat.mul_one]
  constructor
  · intro h
    cases h with
    | millis => exact ⟨.millis, rfl, rfl⟩
    | unnamed => exact ⟨.seconds, rfl, (ofUnit?_eq_some_iff rfl).2 ⟨hone, by rw [Nat.mul_one]⟩⟩
    | seconds => exact ⟨.seconds, rfl, (ofUnit?_eq_some_iff rfl).2 ⟨hone, by rw [Nat.mul_one]⟩⟩
    | minutes h => exact ⟨.minutes, rfl, (ofUnit?_eq_some_iff rfl).2 ⟨h, rfl⟩⟩
    | hours h => exact ⟨.hours, rfl, (ofUnit?_eq_some_iff rfl).2 ⟨h, rfl⟩⟩
  · rintro ⟨u, hname, hunit⟩
    rcases unit_of_name hname with ⟨rfl, rfl⟩ | ⟨hsecond, rfl⟩ | ⟨rfl, rfl⟩ | ⟨rfl, rfl⟩
    · cases hunit
      exact .millis
    · obtain ⟨-, rfl⟩ := (ofUnit?_eq_some_iff rfl).1 hunit
      rw [Nat.mul_one]
      rcases hsecond with rfl | rfl
      · exact .unnamed
      · exact .seconds
    · obtain ⟨h, rfl⟩ := (ofUnit?_eq_some_iff rfl).1 hunit
      exact .minutes h
    · obtain ⟨h, rfl⟩ := (ofUnit?_eq_some_iff rfl).1 hunit
      exact .hours h

/-! ## Reading -/

/-- The digits of a text are its longest run of digits at the beginning. -/
theorem digits_of_reads {digits unit : List Char} (hdigits : ∀ c ∈ digits, c.isDigit = true)
    (hunit : ∀ c ∈ unit, c = 'm' ∨ c = 's' ∨ c = 'h') :
    (digits ++ unit).takeWhile Char.isDigit = digits ∧
      (digits ++ unit).dropWhile Char.isDigit = unit := by
  rw [List.takeWhile_append_of_pos hdigits, List.dropWhile_append_of_pos hdigits]
  cases unit with
  | nil => exact ⟨List.append_nil digits, rfl⟩
  | cons c unit =>
    have hc : ¬ c.isDigit = true := by
      rcases hunit c List.mem_cons_self with rfl | rfl | rfl
      · decide
      · decide
      · decide
    rw [List.takeWhile_cons_of_neg hc, List.dropWhile_cons_of_neg hc, List.append_nil]
    exact ⟨rfl, rfl⟩

theorem isBlank_of_isDigit {c : Char} (h : c.isDigit = true) : isBlank c = false := by
  have hrange : 48 ≤ c.toNat ∧ c.toNat ≤ 57 := by
    simpa [Char.isDigit, UInt32.le_iff_toNat_le] using h
  simp only [Text.isBlank, Bool.or_eq_false_iff, Bool.and_eq_false_iff, decide_eq_false_iff_not]
  omega

/-- What a text spells has no blanks in it. -/
theorem Reads.isBlank {cs : List Char} {d : Duration} (h : Reads cs d) :
    ∀ c ∈ cs, isBlank c = false := by
  obtain ⟨-, hdigits, -, hamount⟩ := h
  intro c hc
  rcases List.mem_append.1 hc with hc | hc
  · exact isBlank_of_isDigit (hdigits c hc)
  · rcases hamount.mem_unit c hc with rfl | rfl | rfl
    · rfl
    · rfl
    · rfl

theorem parse_eq_ok_iff {raw : String} {d : Duration} :
    parse raw = .ok d ↔ Reads (trim raw.toList) d := by
  have hlimit : limit = 2 ^ 64 := rfl
  constructor
  · intro h
    simp only [parse, digitsValue_eq_number, hlimit] at h
    split at h
    · cases h
    · next hdigits =>
      simp only [Bool.or_eq_true, decide_eq_true_eq, not_or, Nat.not_le] at hdigits
      split at h
      · cases h
      · next u hname =>
        split at h
        · cases h
        · next d' hunit =>
          cases h
          rw [← List.takeWhile_append_dropWhile (p := Char.isDigit) (l := trim raw.toList)]
          exact .intro hdigits.1 (fun c hc => List.mem_takeWhile_imp hc) hdigits.2
            ((amount_iff hdigits.2).2 ⟨u, hname, hunit⟩)
  · intro h
    generalize hcore : trim raw.toList = core at h
    obtain ⟨hne, hdigits, hn, hamount⟩ := h
    obtain ⟨u, hname, hunit⟩ := (amount_iff hn).1 hamount
    obtain ⟨htake, hdrop⟩ := digits_of_reads hdigits hamount.mem_unit
    simp only [parse, hcore, htake, hdrop, digitsValue_eq_number, hlimit, hname, hunit]
    rw [if_neg]
    simp only [Bool.or_eq_true, decide_eq_true_eq, not_or, Nat.not_le]
    exact ⟨hne, hn⟩

/-! ## The theorem -/

theorem spells_iff {raw : String} {d : Duration} : Spells raw d ↔ Reads (trim raw.toList) d := by
  constructor
  · rintro ⟨hbefore, hcore, hafter, hraw⟩
    rwa [hraw, trim_between hbefore hcore.isBlank hafter]
  · intro h
    obtain ⟨before, after, hbefore, hafter, hraw⟩ := exists_trim raw.toList
    exact .intro hbefore h hafter hraw

/-- A text is read as a duration exactly if it spells this duration, and refused exactly if it
spells none. -/
theorem parse_grammar (raw : String) :
    (∀ d, parse raw = .ok d ↔ Spells raw d) ∧
      ((∃ fault, parse raw = .error fault) ↔ ∀ d, ¬ Spells raw d) := by
  have hspells (d : Duration) : parse raw = .ok d ↔ Spells raw d :=
    parse_eq_ok_iff.trans spells_iff.symm
  refine ⟨hspells, ?_⟩
  simp only [← hspells]
  cases parse raw with
  | ok d => simp
  | error fault => simp

example : parse "\u2003007m\n" = .ok (.ofSeconds 420) := by decide +kernel

/- The last number of minutes whose seconds have 64 bits, and the next one. -/
example : parse "307445734561825860m" = .ok (.ofSeconds 18446744073709551600) ∧
    parse "307445734561825861m" = .error (.outOfRange "307445734561825861m") := by decide +kernel

end Duration

end DriverRegistration
