import DriverRegistration.Proofs.Json.Writing

/-!
# The grammar of values

What any value of a document looks like, said without a reader: strings (`Spelled`), numbers
(`Numeral`), and values of any depth with their elements and members (`Spells`).  What is written
belongs to it: `spells_writtenList` and `spells_writtenObject`.
-/

namespace DriverRegistration.Json

/-- What stands between the quotation marks of a string whose escapes are spelled right.  The codes
of escapes may be those of unpaired halves of surrogate pairs: the string then stands for no
text. -/
inductive Spelled : List Char → Prop
  | nil : Spelled []
  | plain {c : Char} {w : List Char} (hq : c ≠ '"') (hb : c ≠ '\\') (hc : 0x20 ≤ c.toNat)
      (h : Spelled w) : Spelled (c :: w)
  | short {c e : Char} {w : List Char} (he : (c, e) ∈ shortEscapes) (h : Spelled w) :
      Spelled ('\\' :: c :: w)
  | code {a b c d : Char} {n : Nat} {w : List Char} (hn : HexNumber a b c d n) (h : Spelled w) :
      Spelled ('\\' :: 'u' :: a :: b :: c :: d :: w)

/-- Decimal digits, at least one. -/
def Digits (ds : List Char) : Prop := ds ≠ [] ∧ ∀ d ∈ ds, d.isDigit = true

/-- The digits before the point of a number: no zero stands in front of others. -/
inductive Whole : List Char → Prop
  | zero : Whole ['0']
  | other {c : Char} {ds : List Char} (hc : c.isDigit = true) (hzero : c ≠ '0')
      (hds : ∀ d ∈ ds, d.isDigit = true) : Whole (c :: ds)

/-- The fraction of a number, if it has one. -/
inductive Fraction : List Char → Prop
  | none : Fraction []
  | some {ds : List Char} (h : Digits ds) : Fraction ('.' :: ds)

/-- The exponent of a number, if it has one. -/
inductive Exponent : List Char → Prop
  | none : Exponent []
  | some {e : Char} {sign ds : List Char} (he : e = 'e' ∨ e = 'E')
      (hsign : sign = [] ∨ sign = ['+'] ∨ sign = ['-']) (h : Digits ds) :
      Exponent (e :: (sign ++ ds))

/-- A number. -/
inductive Numeral : List Char → Prop
  | plain {w f e : List Char} (hw : Whole w) (hf : Fraction f) (he : Exponent e) :
      Numeral (w ++ (f ++ e))
  | minus {w f e : List Char} (hw : Whole w) (hf : Fraction f) (he : Exponent e) :
      Numeral ('-' :: (w ++ (f ++ e)))

/-- The phrases that documents are made of: values; lists and what stands between their brackets,
each with the texts of its elements; objects and what stands between their braces, each with its
members, that is with what stands between the quotation marks of a key, and with the text of the
value. -/
inductive Phrase where
  | value
  | list (vs : List (List Char))
  | elements (vs : List (List Char))
  | object (ms : List (List Char × List Char))
  | members (ms : List (List Char × List Char))

/-- The texts of a phrase. -/
inductive Spells : Phrase → List Char → Prop
  | nullWord : Spells .value ['n', 'u', 'l', 'l']
  | trueWord : Spells .value ['t', 'r', 'u', 'e']
  | falseWord : Spells .value ['f', 'a', 'l', 's', 'e']
  | number {cs : List Char} (h : Numeral cs) : Spells .value cs
  | text {w : List Char} (h : Spelled w) : Spells .value ('"' :: (w ++ ['"']))
  | list {cs : List Char} {vs : List (List Char)} (h : Spells (.list vs) cs) : Spells .value cs
  | object {cs : List Char} {ms : List (List Char × List Char)} (h : Spells (.object ms) cs) :
      Spells .value cs
  | emptyList {a : List Char} (ha : Blanks a) : Spells (.list []) ('[' :: (a ++ [']']))
  | filledList {cs : List Char} {vs : List (List Char)} (h : Spells (.elements vs) cs) :
      Spells (.list vs) ('[' :: (cs ++ [']']))
  | lastElement {a v b : List Char} (ha : Blanks a) (hv : Spells .value v) (hb : Blanks b) :
      Spells (.elements [v]) (a ++ (v ++ b))
  | element {a v b cs : List Char} {vs : List (List Char)} (ha : Blanks a) (hv : Spells .value v)
      (hb : Blanks b) (hs : Spells (.elements vs) cs) :
      Spells (.elements (v :: vs)) (a ++ (v ++ (b ++ ',' :: cs)))
  | emptyObject {a : List Char} (ha : Blanks a) :
      Spells (.object []) ('\x7b' :: (a ++ ['\x7d']))
  | filledObject {cs : List Char} {ms : List (List Char × List Char)}
      (h : Spells (.members ms) cs) : Spells (.object ms) ('\x7b' :: (cs ++ ['\x7d']))
  | lastMember {a k b c v d : List Char} (ha : Blanks a) (hk : Spelled k) (hb : Blanks b)
      (hc : Blanks c) (hv : Spells .value v) (hd : Blanks d) :
      Spells (.members [(k, v)]) (a ++ '"' :: (k ++ '"' :: (b ++ ':' :: (c ++ (v ++ d)))))
  | member {a k b c v d cs : List Char} {ms : List (List Char × List Char)} (ha : Blanks a)
      (hk : Spelled k) (hb : Blanks b) (hc : Blanks c) (hv : Spells .value v) (hd : Blanks d)
      (hs : Spells (.members ms) cs) :
      Spells (.members ((k, v) :: ms))
        (a ++ '"' :: (k ++ '"' :: (b ++ ':' :: (c ++ (v ++ (d ++ ',' :: cs))))))

/-- The body of a string is spelled right. -/
theorem Body.spelled {w s : List Char} (h : Body w s) : Spelled w := by
  induction h with
  | nil => exact .nil
  | plain hq hb hc _ ih => exact .plain hq hb hc ih
  | short he _ ih => exact .short he ih
  | code hn _ _ ih => exact .code hn ih
  | pair hn hn' _ _ _ ih => exact .code hn (.code hn' ih)

theorem Literal.spells {v : List Char} {s : String} (h : Literal v s) : Spells .value v := by
  obtain ⟨hbody⟩ := h
  exact .text hbody.spelled

/-! ## How values begin -/

theorem Numeral.exists_first {cs : List Char} (h : Numeral cs) :
    ∃ c w, cs = c :: w ∧ (c = '-' ∨ c.isDigit = true) := by
  cases h with
  | minus _ _ _ => exact ⟨'-', _, rfl, Or.inl rfl⟩
  | plain hw _ _ =>
    cases hw with
    | zero => exact ⟨'0', _, rfl, Or.inr rfl⟩
    | other hc _ _ => exact ⟨_, _, rfl, Or.inr hc⟩

theorem Numeral.first {c : Char} {u : List Char} (h : Numeral (c :: u)) :
    c = '-' ∨ c.isDigit = true := by
  obtain ⟨d, w, heq, hd⟩ := h.exists_first
  cases heq
  exact hd

/-- A character that a value begins with. -/
def Starts (c : Char) : Prop := isBlank c = false ∧ c ≠ ']'

theorem starts_of_numeral {c : Char} (h : c = '-' ∨ c.isDigit = true) : Starts c := by
  rcases h with rfl | hc
  · exact ⟨rfl, by decide⟩
  · refine ⟨Bool.eq_false_iff.2 fun hblank => ?_, ?_⟩
    · simp only [isBlank, Bool.or_eq_true, decide_eq_true_eq] at hblank
      rcases hblank with ((rfl | rfl) | rfl) | rfl
      all_goals cases hc
    · rintro rfl
      cases hc

theorem Spells.exists_bracket {cs : List Char} {vs : List (List Char)} (h : Spells (.list vs) cs) :
    ∃ w, cs = '[' :: w := by
  cases h with
  | emptyList _ => exact ⟨_, rfl⟩
  | filledList _ => exact ⟨_, rfl⟩

theorem Spells.exists_brace {cs : List Char} {ms : List (List Char × List Char)}
    (h : Spells (.object ms) cs) : ∃ w, cs = '\x7b' :: w := by
  cases h with
  | emptyObject _ => exact ⟨_, rfl⟩
  | filledObject _ => exact ⟨_, rfl⟩

theorem Spells.exists_first {cs : List Char} (h : Spells .value cs) :
    ∃ c w, cs = c :: w ∧ Starts c := by
  cases h with
  | number h =>
    obtain ⟨c, w, rfl, hc⟩ := h.exists_first
    exact ⟨c, w, rfl, starts_of_numeral hc⟩
  | list h =>
    obtain ⟨w, rfl⟩ := h.exists_bracket
    exact ⟨_, w, rfl, rfl, by decide⟩
  | object h =>
    obtain ⟨w, rfl⟩ := h.exists_brace
    exact ⟨_, w, rfl, rfl, by decide⟩
  | _ => exact ⟨_, _, rfl, rfl, by decide⟩

/-- Elements begin, behind blanks, with no closing bracket. -/
theorem Spells.exists_first_element {cs : List Char} {vs : List (List Char)}
    (h : Spells (.elements vs) cs) : ∃ a c w, Blanks a ∧ cs = a ++ c :: w ∧ Starts c := by
  cases h with
  | lastElement ha hv _ =>
    obtain ⟨c, w, rfl, hc⟩ := hv.exists_first
    exact ⟨_, c, _, ha, rfl, hc⟩
  | element ha hv _ _ =>
    obtain ⟨c, w, rfl, hc⟩ := hv.exists_first
    exact ⟨_, c, _, ha, rfl, hc⟩

/-- Members begin, behind blanks, with a quotation mark. -/
theorem Spells.exists_first_member {cs : List Char} {ms : List (List Char × List Char)}
    (h : Spells (.members ms) cs) : ∃ a w, Blanks a ∧ cs = a ++ '"' :: w := by
  cases h with
  | lastMember ha _ _ _ _ _ => exact ⟨_, _, ha, rfl⟩
  | member ha _ _ _ _ _ _ => exact ⟨_, _, ha, rfl⟩

/-- A value that begins like a string is one. -/
theorem Spells.exists_spelled {u : List Char} (h : Spells .value ('"' :: u)) :
    ∃ w, u = w ++ ['"'] ∧ Spelled w := by
  generalize hv : '"' :: u = v at h
  cases h with
  | text h =>
    cases hv
    exact ⟨_, rfl, h⟩
  | number h =>
    cases hv
    exact absurd h.first (by decide)
  | list h =>
    obtain ⟨w, rfl⟩ := h.exists_bracket
    cases hv
  | object h =>
    obtain ⟨w, rfl⟩ := h.exists_brace
    cases hv
  | _ => cases hv

/-- A value that begins like a list is one. -/
theorem Spells.exists_list {u : List Char} (h : Spells .value ('[' :: u)) :
    ∃ vs, Spells (.list vs) ('[' :: u) := by
  generalize hv : '[' :: u = v at h
  cases h with
  | list h => exact ⟨_, h⟩
  | number h =>
    cases hv
    exact absurd h.first (by decide)
  | object h =>
    obtain ⟨w, rfl⟩ := h.exists_brace
    cases hv
  | _ => cases hv

/-! ## Lengths -/

/-- Every element takes a character. -/
theorem Spells.length_elements_le {cs : List Char} {vs : List (List Char)}
    (h : Spells (.elements vs) cs) : vs.length ≤ cs.length := by
  generalize hp : Phrase.elements vs = p at h
  induction h generalizing vs with
  | lastElement ha hv hb ih =>
    cases hp
    obtain ⟨c, u, rfl, -⟩ := hv.exists_first
    simp only [List.length_append, List.length_cons, List.length_nil]
    omega
  | element ha hv hb hs ihv ih =>
    cases hp
    have hle := ih rfl
    simp only [List.length_append, List.length_cons]
    omega
  | _ => cases hp

/-- Every member takes a character. -/
theorem Spells.length_members_le {cs : List Char} {ms : List (List Char × List Char)}
    (h : Spells (.members ms) cs) : ms.length ≤ cs.length := by
  generalize hp : Phrase.members ms = p at h
  induction h generalizing ms with
  | lastMember ha hk hb hc hv hd ih =>
    cases hp
    simp only [List.length_append, List.length_cons, List.length_nil]
    omega
  | member ha hk hb hc hv hd hs ihv ih =>
    cases hp
    have hle := ih rfl
    simp only [List.length_append, List.length_cons]
    omega
  | _ => cases hp

/-! ## What is written -/

theorem blanks_nil : Blanks [] := nofun

theorem spells_commaSeparated {v : List Char} {vs : List (List Char)}
    (h : ∀ w ∈ v :: vs, Spells .value w) :
    Spells (.elements (v :: vs)) (commaSeparated (v :: vs)) := by
  induction vs generalizing v with
  | nil =>
    have hlast := Spells.lastElement blanks_nil (h v List.mem_cons_self) blanks_nil
    simpa [commaSeparated, List.intersperse] using hlast
  | cons w ws ih =>
    rw [commaSeparated_cons_cons]
    exact .element blanks_nil (h v List.mem_cons_self) blanks_nil
      (ih fun x hx => h x (List.mem_cons_of_mem _ hx))

theorem spells_writtenList {vs : List (List Char)} (h : ∀ v ∈ vs, Spells .value v) :
    Spells (.list vs) (writtenList vs) := by
  cases vs with
  | nil => exact .emptyList blanks_nil
  | cons v vs => exact .filledList (spells_commaSeparated h)

/-- A member with the spelling of its key. -/
def spelledMember (m : String × List Char) : List Char × List Char :=
  (m.1.toList.flatMap writtenChar, m.2)

theorem spells_writtenMembers {m : String × List Char} {ms : List (String × List Char)}
    (h : ∀ n ∈ m :: ms, Spells .value n.2) :
    Spells (.members ((m :: ms).map spelledMember))
      (commaSeparated ((m :: ms).map fun n => writtenText n.1 ++ ':' :: n.2)) := by
  have hkey (n : String × List Char) : Spelled (n.1.toList.flatMap writtenChar) :=
    (body_written n.1.toList).spelled
  induction ms generalizing m with
  | nil =>
    have hlast := Spells.lastMember blanks_nil (hkey m) blanks_nil blanks_nil
      (h m List.mem_cons_self) blanks_nil
    simpa [commaSeparated, List.intersperse, writtenText, spelledMember] using hlast
  | cons n ms ih =>
    have hmore := Spells.member blanks_nil (hkey m) blanks_nil blanks_nil
      (h m List.mem_cons_self) blanks_nil (ih fun x hx => h x (List.mem_cons_of_mem _ hx))
    simpa [commaSeparated_cons_cons, writtenText, spelledMember] using hmore

theorem spells_writtenObject {ms : List (String × List Char)} (h : ∀ m ∈ ms, Spells .value m.2) :
    Spells (.object (ms.map spelledMember)) (writtenObject ms) := by
  cases ms with
  | nil => exact .emptyObject blanks_nil
  | cons m ms => exact .filledObject (spells_writtenMembers h)

end DriverRegistration.Json
