import DriverRegistration.Proofs.Json.Reading
import DriverRegistration.Proofs.Json.Values

/-!
# Values that are passed over

Every value is passed over as a whole, of whatever kind and depth it is, if what follows it does not
prolong a number (`Ends`): `ignoredValue_append`.
-/

namespace DriverRegistration.Json

/-! ## Strings -/

theorem skipString_append {w : List Char} (h : Spelled w) (rest : List Char) :
    skipString (w ++ '"' :: rest) = .ok rest := by
  induction h with
  | nil => rw [List.nil_append, skipString]
  | plain hq hb hc _ ih =>
    rw [List.cons_append, skipString]
    · rw [if_neg (Nat.not_lt.2 hc), ih]
    all_goals simp_all
  | @short c e w he _ ih =>
    have hu : c ≠ 'u' := by
      rintro rfl
      simp [shortEscapes] at he
    rw [List.cons_append, List.cons_append, skipString]
    · rw [shortEscape?_eq_some_iff.2 he, ih]
      rfl
    · simpa using hu
  | code hn _ ih =>
    simp only [List.cons_append, skipString, hexNumber?_eq_some_iff.2 hn, ih, Option.isSome_some,
      if_true]

/-! ## Numbers -/

/-- What follows a value and does not prolong it, should it be a number. -/
def Ends (rest : List Char) : Prop :=
  ∀ c ∈ rest.head?, c.isDigit = false ∧ c ≠ '.' ∧ c ≠ 'e' ∧ c ≠ 'E'

theorem ends_cons {c : Char} (hd : c.isDigit = false) (hp : c ≠ '.') (he : c ≠ 'e') (hE : c ≠ 'E')
    (rest : List Char) : Ends (c :: rest) := by
  intro d hd'
  cases hd'
  exact ⟨hd, hp, he, hE⟩

/-- A value ends at blanks. -/
theorem Ends.blanks {b rest : List Char} (hb : Blanks b) (h : Ends rest) : Ends (b ++ rest) := by
  cases b with
  | nil => exact h
  | cons c b =>
    have hc : isBlank c = true := hb c List.mem_cons_self
    simp only [isBlank, Bool.or_eq_true, decide_eq_true_eq] at hc
    rcases hc with ((rfl | rfl) | rfl) | rfl
    all_goals exact ends_cons (by decide) (by decide) (by decide) (by decide) _

theorem ends_comma {b : List Char} (hb : Blanks b) (rest : List Char) : Ends (b ++ ',' :: rest) :=
  .blanks hb (ends_cons (by decide) (by decide) (by decide) (by decide) rest)

theorem ends_bracket {b : List Char} (hb : Blanks b) (rest : List Char) : Ends (b ++ ']' :: rest) :=
  .blanks hb (ends_cons (by decide) (by decide) (by decide) (by decide) rest)

theorem ends_brace {b : List Char} (hb : Blanks b) (rest : List Char) :
    Ends (b ++ '\x7d' :: rest) :=
  .blanks hb (ends_cons (by decide) (by decide) (by decide) (by decide) rest)

theorem startsWithDigit_of_digits {ds : List Char} (h : Digits ds) (rest : List Char) :
    startsWithDigit (ds ++ rest) = true := by
  obtain ⟨hne, hds⟩ := h
  obtain ⟨d, ds, rfl⟩ := List.exists_cons_of_ne_nil hne
  exact hds d List.mem_cons_self

theorem dropDigits_append {ds rest : List Char} (hds : ∀ d ∈ ds, d.isDigit = true)
    (hrest : startsWithDigit rest = false) : (ds ++ rest).dropWhile Char.isDigit = rest := by
  rw [List.dropWhile_append_of_pos hds]
  cases rest with
  | nil => rfl
  | cons c rest =>
    have hc : ¬ c.isDigit = true := by
      rw [Bool.not_eq_true]
      exact hrest
    exact List.dropWhile_cons_of_neg hc

theorem Ends.startsWithDigit {rest : List Char} (h : Ends rest) : startsWithDigit rest = false := by
  cases rest with
  | nil => rfl
  | cons c rest => exact (h c rfl).1

theorem skipExponent_append {sign ds rest : List Char}
    (hsign : sign = [] ∨ sign = ['+'] ∨ sign = ['-']) (h : Digits ds) (hrest : Ends rest) :
    skipExponent (sign ++ (ds ++ rest)) = .ok rest := by
  have hstart : startsWithDigit (ds ++ rest) = true := startsWithDigit_of_digits h rest
  have hdrop : (ds ++ rest).dropWhile Char.isDigit = rest :=
    dropDigits_append h.2 hrest.startsWithDigit
  rcases hsign with rfl | rfl | rfl
  · obtain ⟨hne, hds⟩ := h
    obtain ⟨d, ds, rfl⟩ := List.exists_cons_of_ne_nil hne
    have hd : d.isDigit = true := hds d List.mem_cons_self
    unfold skipExponent
    split
    · next heq => cases heq; cases hd
    · next heq => cases heq; cases hd
    · exact (if_pos hstart).trans (congrArg _ hdrop)
  · exact (if_pos hstart).trans (congrArg _ hdrop)
  · exact (if_pos hstart).trans (congrArg _ hdrop)

/-- An exponent does not prolong the digits before it. -/
theorem startsWithDigit_exponent {e rest : List Char} (he : Exponent e) (hrest : Ends rest) :
    startsWithDigit (e ++ rest) = false := by
  cases he with
  | none => exact hrest.startsWithDigit
  | some he _ _ =>
    rcases he with rfl | rfl
    · rfl
    · rfl

theorem skipFraction_exponent {e rest : List Char} (he : Exponent e) (hrest : Ends rest) :
    skipFraction (e ++ rest) = .ok rest := by
  cases he with
  | none =>
    rw [List.nil_append]
    unfold skipFraction
    split
    · exact absurd rfl (hrest '.' rfl).2.1
    · exact absurd rfl (hrest 'e' rfl).2.2.1
    · exact absurd rfl (hrest 'E' rfl).2.2.2
    · rfl
  | some he hsign h =>
    rw [List.cons_append, List.append_assoc]
    rcases he with rfl | rfl
    · exact skipExponent_append hsign h hrest
    · exact skipExponent_append hsign h hrest

theorem skipFraction_append {f e rest : List Char} (hf : Fraction f) (he : Exponent e)
    (hrest : Ends rest) : skipFraction (f ++ (e ++ rest)) = .ok rest := by
  cases hf with
  | none => exact skipFraction_exponent he hrest
  | @some ds h =>
    have hdrop : (ds ++ (e ++ rest)).dropWhile Char.isDigit = e ++ rest :=
      dropDigits_append h.2 (startsWithDigit_exponent he hrest)
    have hend : skipFraction (e ++ rest) = .ok rest := skipFraction_exponent he hrest
    rw [List.cons_append, skipFraction, if_pos (startsWithDigit_of_digits h _), hdrop]
    cases he with
    | none =>
      rw [List.nil_append]
      split
      · exact absurd rfl (hrest 'e' rfl).2.2.1
      · exact absurd rfl (hrest 'E' rfl).2.2.2
      · rfl
    | some he _ _ =>
      rcases he with rfl | rfl
      · exact hend
      · exact hend

theorem skipNumber_append {w f e rest : List Char} (hw : Whole w) (hf : Fraction f)
    (he : Exponent e) (hrest : Ends rest) : skipNumber (w ++ (f ++ (e ++ rest))) = .ok rest := by
  have hend : startsWithDigit (f ++ (e ++ rest)) = false := by
    cases hf with
    | none =>
      rw [List.nil_append]
      exact startsWithDigit_exponent he hrest
    | some _ => rfl
  cases hw with
  | zero =>
    rw [List.cons_append, List.nil_append, skipNumber, if_pos rfl, if_neg (by simp [hend])]
    exact skipFraction_append hf he hrest
  | other hc hzero hds =>
    rw [List.cons_append, skipNumber, if_neg hzero, if_pos hc, dropDigits_append hds hend]
    exact skipFraction_append hf he hrest

/-! ## Values -/

theorem skipValue_blanks {a : List Char} (ha : Blanks a) (fuel : Nat) (cs : List Char) :
    skipValue (fuel + 1) (a ++ cs) = skipValue (fuel + 1) cs := by
  rw [skipValue, skipValue, startOfValue, skipBlanks_append ha, startOfValue]

theorem skipElements_blanks {a : List Char} (ha : Blanks a) (fuel : Nat) (cs : List Char) :
    skipValue.skipElements (fuel + 2) (a ++ cs) = skipValue.skipElements (fuel + 2) cs := by
  rw [skipValue.skipElements, skipValue.skipElements, skipValue_blanks ha]

theorem skipMembers_blanks {a : List Char} (ha : Blanks a) (fuel : Nat) (cs : List Char) :
    skipValue.skipMembers (fuel + 1) (a ++ cs) = skipValue.skipMembers (fuel + 1) cs := by
  rw [skipValue.skipMembers, skipValue.skipMembers, skipKey, skipBlanks_append ha, skipKey]

theorem skipKey_append {a k b : List Char} (ha : Blanks a) (hk : Spelled k) (hb : Blanks b)
    (cs : List Char) : skipKey (a ++ '"' :: (k ++ '"' :: (b ++ ':' :: cs))) = .ok cs := by
  simp only [skipKey, skipBlanks_append_cons ha (show isBlank '"' = false from rfl),
    skipString_append hk, bind, Except.bind, colon_append hb]

/-- What the reader does with the texts of a phrase, whatever follows them. -/
def Skips : Phrase → List Char → Prop
  | .value, cs | .list _, cs | .object _, cs =>
    ∀ (rest : List Char) (fuel : Nat), Ends rest → 2 * cs.length + 1 ≤ fuel →
      skipValue fuel (cs ++ rest) = .ok rest
  | .elements _, cs => ∀ (rest : List Char) (fuel : Nat), 2 * cs.length + 2 ≤ fuel →
      skipValue.skipElements fuel (cs ++ ']' :: rest) = .ok rest
  | .members _, cs => ∀ (rest : List Char) (fuel : Nat), 2 * cs.length + 2 ≤ fuel →
      skipValue.skipMembers fuel (cs ++ '\x7d' :: rest) = .ok rest

theorem skipValue_text {w : List Char} (h : Spelled w) (fuel : Nat) (rest : List Char) :
    skipValue (fuel + 1) ('"' :: (w ++ '"' :: rest)) = .ok rest := by
  simp only [skipValue, startOfValue, skipBlanks_cons (show isBlank '"' = false from rfl), bind,
    Except.bind, skipString_append h]

theorem skipValue_digit {c : Char} (hc : c.isDigit = true) (fuel : Nat) (r : List Char) :
    skipValue (fuel + 1) (c :: r) = skipNumber (c :: r) := by
  have hblank : isBlank c = false := (starts_of_numeral (Or.inr hc)).1
  rw [skipValue]
  simp only [startOfValue, skipBlanks_cons hblank, bind, Except.bind]
  split
  case h_8 => exact if_pos hc
  all_goals
    next heq =>
      cases heq
      cases hc

theorem skipValue_number {cs rest : List Char} (h : Numeral cs) (hrest : Ends rest) (fuel : Nat) :
    skipValue (fuel + 1) (cs ++ rest) = .ok rest := by
  cases h with
  | minus hw hf he =>
    simp only [skipValue, startOfValue, List.cons_append, List.append_assoc,
      skipBlanks_cons (show isBlank '-' = false from rfl), bind, Except.bind,
      skipNumber_append hw hf he hrest]
  | plain hw hf he =>
    have hskip := skipNumber_append hw hf he hrest
    rw [List.append_assoc, List.append_assoc]
    cases hw with
    | zero => exact (skipValue_digit rfl fuel _).trans hskip
    | other hc _ _ => exact (skipValue_digit hc fuel _).trans hskip

/-- Behind the bracket of a list that is not empty its elements are passed over. -/
theorem skipValue_list {cs : List Char} {vs : List (List Char)} (h : Spells (.elements vs) cs)
    (fuel : Nat) (rest : List Char) :
    skipValue (fuel + 3) ('[' :: (cs ++ ']' :: rest)) =
      skipValue.skipElements (fuel + 2) (cs ++ ']' :: rest) := by
  obtain ⟨a, c, w, ha, rfl, hc, hne⟩ := h.exists_first_element
  have hskip : skipBlanks (a ++ c :: w ++ ']' :: rest) = c :: (w ++ ']' :: rest) := by
    rw [List.append_assoc]
    exact skipBlanks_append_cons ha hc _
  rw [skipValue]
  simp only [startOfValue, skipBlanks_cons (show isBlank '[' = false from rfl), bind, Except.bind]
  rw [hskip]
  split
  · next heq => cases heq; exact absurd rfl hne
  · next heq => cases heq
  · rw [List.append_assoc]
    exact (skipElements_blanks ha _ _).symm

/-- Behind the brace of an object that is not empty its members are passed over. -/
theorem skipValue_object {cs : List Char} {ms : List (List Char × List Char)}
    (h : Spells (.members ms) cs) (fuel : Nat) (rest : List Char) :
    skipValue (fuel + 2) ('\x7b' :: (cs ++ '\x7d' :: rest)) =
      skipValue.skipMembers (fuel + 1) (cs ++ '\x7d' :: rest) := by
  obtain ⟨a, w, ha, rfl⟩ := h.exists_first_member
  have hskip : skipBlanks (a ++ '"' :: w ++ '\x7d' :: rest) = '"' :: (w ++ '\x7d' :: rest) := by
    rw [List.append_assoc]
    exact skipBlanks_append_cons ha rfl _
  rw [skipValue]
  simp only [startOfValue, skipBlanks_cons (show isBlank '\x7b' = false from rfl), bind,
    Except.bind]
  rw [hskip, List.append_assoc]
  exact (skipMembers_blanks ha _ _).symm

/-- Values, elements with their bracket and members with their brace are passed over. -/
theorem Spells.skips {p : Phrase} {cs : List Char} (h : Spells p cs) : Skips p cs := by
  -- every step into a phrase costs fuel, and the bracket, brace or comma before it pays for it
  induction h with
  | nullWord | trueWord | falseWord =>
    intro rest fuel _ hfuel
    obtain ⟨fuel, rfl⟩ : ∃ f, fuel = f + 1 := ⟨fuel - 1, by omega⟩
    rfl
  | number h =>
    intro rest fuel hrest hfuel
    obtain ⟨fuel, rfl⟩ : ∃ f, fuel = f + 1 := ⟨fuel - 1, by omega⟩
    exact skipValue_number h hrest fuel
  | text h =>
    intro rest fuel _ hfuel
    obtain ⟨fuel, rfl⟩ : ∃ f, fuel = f + 1 := ⟨fuel - 1, by omega⟩
    rw [List.cons_append, List.append_assoc]
    exact skipValue_text h fuel rest
  | list _ ih => exact ih
  | object _ ih => exact ih
  | emptyList ha =>
    intro rest fuel _ hfuel
    obtain ⟨fuel, rfl⟩ : ∃ f, fuel = f + 1 := ⟨fuel - 1, by omega⟩
    simp only [skipValue, startOfValue, List.cons_append, List.append_assoc, List.nil_append,
      skipBlanks_cons (show isBlank '[' = false from rfl), bind, Except.bind,
      skipBlanks_append_cons ha (show isBlank ']' = false from rfl)]
  | filledList h ih =>
    intro rest fuel _ hfuel
    simp only [List.length_cons, List.length_append, List.length_nil] at hfuel
    obtain ⟨fuel, rfl⟩ : ∃ f, fuel = f + 3 := ⟨fuel - 3, by omega⟩
    rw [List.cons_append, List.append_assoc]
    exact (skipValue_list h fuel rest).trans (ih _ _ (by omega))
  | emptyObject ha =>
    intro rest fuel _ hfuel
    obtain ⟨fuel, rfl⟩ : ∃ f, fuel = f + 1 := ⟨fuel - 1, by omega⟩
    simp only [skipValue, startOfValue, List.cons_append, List.append_assoc, List.nil_append,
      skipBlanks_cons (show isBlank '\x7b' = false from rfl), bind, Except.bind,
      skipBlanks_append_cons ha (show isBlank '\x7d' = false from rfl)]
  | filledObject h ih =>
    intro rest fuel _ hfuel
    simp only [List.length_cons, List.length_append, List.length_nil] at hfuel
    obtain ⟨fuel, rfl⟩ : ∃ f, fuel = f + 2 := ⟨fuel - 2, by omega⟩
    rw [List.cons_append, List.append_assoc]
    exact (skipValue_object h fuel rest).trans (ih _ _ (by omega))
  | lastElement ha hv hb ih =>
    intro rest fuel hfuel
    simp only [List.length_append] at hfuel
    obtain ⟨fuel, rfl⟩ : ∃ f, fuel = f + 2 := ⟨fuel - 2, by omega⟩
    have hvalue := ih _ (fuel + 1) (ends_bracket hb rest) (by omega)
    rw [List.append_assoc, List.append_assoc, skipElements_blanks ha, skipValue.skipElements,
      hvalue]
    simp only [bind, Except.bind, skipBlanks_append_cons hb (show isBlank ']' = false from rfl)]
  | @element a v b cs vs ha hv hb hs ihv ihs =>
    intro rest fuel hfuel
    simp only [List.length_append, List.length_cons] at hfuel
    obtain ⟨fuel, rfl⟩ : ∃ f, fuel = f + 2 := ⟨fuel - 2, by omega⟩
    have hvalue := ihv _ (fuel + 1) (ends_comma hb (cs ++ ']' :: rest)) (by omega)
    rw [List.append_assoc, List.append_assoc, List.append_assoc, List.cons_append,
      skipElements_blanks ha, skipValue.skipElements, hvalue]
    simp only [bind, Except.bind, skipBlanks_append_cons hb (show isBlank ',' = false from rfl)]
    exact ihs _ _ (by omega)
  | lastMember ha hk hb hc hv hd ih =>
    intro rest fuel hfuel
    simp only [List.length_append, List.length_cons] at hfuel
    obtain ⟨fuel, rfl⟩ : ∃ f, fuel = f + 2 := ⟨fuel - 2, by omega⟩
    have hvalue := ih _ (fuel + 1) (ends_brace hd rest) (by omega)
    simp only [List.append_assoc, List.cons_append]
    rw [skipValue.skipMembers, skipKey_append ha hk hb]
    simp only [bind, Except.bind, skipValue_blanks hc, hvalue,
      skipBlanks_append_cons hd (show isBlank '\x7d' = false from rfl)]
  | @member a k b c v d cs ms ha hk hb hc hv hd hs ihv ihs =>
    intro rest fuel hfuel
    simp only [List.length_append, List.length_cons] at hfuel
    obtain ⟨fuel, rfl⟩ : ∃ f, fuel = f + 2 := ⟨fuel - 2, by omega⟩
    have hvalue := ihv _ (fuel + 1) (ends_comma hd (cs ++ '\x7d' :: rest)) (by omega)
    simp only [List.append_assoc, List.cons_append]
    rw [skipValue.skipMembers, skipKey_append ha hk hb]
    simp only [bind, Except.bind, skipValue_blanks hc, hvalue,
      skipBlanks_append_cons hd (show isBlank ',' = false from rfl)]
    exact ihs _ _ (by omega)

/-- A value of any depth is passed over, with the blanks before it. -/
theorem ignoredValue_append {a v rest : List Char} (ha : Blanks a) (hv : Spells .value v)
    (hrest : Ends rest) : ignoredValue (a ++ (v ++ rest)) = .ok rest := by
  rw [ignoredValue, skipValue_blanks ha]
  refine hv.skips _ _ hrest ?_
  simp only [List.length_append]
  omega

end DriverRegistration.Json
