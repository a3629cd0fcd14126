import DriverRegistration.Json.Token
import Mathlib.Tactic.SplitIfs

/-!
# The grammar of flat objects

What a flat object of strings looks like, said without a reader: the body of a string literal
(`Body`), a literal (`Literal`), a member (`Member`), members with commas between them (`Members`)
and the object around them (`Object`).  What may stand between the tokens is a parameter: `Blanks`
allows any blanks there, and `Tight` allows nothing.

The tokens of the grammar are tied to those of the reader by `shortEscape?_eq_some_iff` and
`hexNumber?_eq_some_iff`.
-/

namespace DriverRegistration.Json

/-! ## Escapes -/

/-- The escapes of one letter, with the characters that they stand for. -/
def shortEscapes : List (Char × Char) :=
  [('"', '"'), ('\\', '\\'), ('/', '/'), ('b', '\x08'), ('f', '\x0c'), ('n', '\n'), ('r', '\r'),
    ('t', '\t')]

theorem shortEscape?_eq_some_iff {c e : Char} :
    shortEscape? c = some e ↔ (c, e) ∈ shortEscapes := by
  simp only [shortEscapes, List.mem_cons, Prod.mk.injEq, List.not_mem_nil, or_false]
  unfold shortEscape?
  split <;> simp_all [eq_comm]

/-- A hexadecimal digit of either case, with its value. -/
def HexDigit (c : Char) (n : Nat) : Prop :=
  (48 ≤ c.toNat ∧ c.toNat ≤ 57 ∧ n = c.toNat - 48) ∨
    (97 ≤ c.toNat ∧ c.toNat ≤ 102 ∧ n = c.toNat - 87) ∨
    (65 ≤ c.toNat ∧ c.toNat ≤ 70 ∧ n = c.toNat - 55)

theorem char_le_iff (c d : Char) : c ≤ d ↔ c.toNat ≤ d.toNat := Iff.rfl

theorem hexValue?_eq_some_iff {c : Char} {n : Nat} : hexValue? c = some n ↔ HexDigit c n := by
  have h0 : '0'.toNat = 48 := rfl
  have h9 : '9'.toNat = 57 := rfl
  have ha : 'a'.toNat = 97 := rfl
  have hf : 'f'.toNat = 102 := rfl
  have hA : 'A'.toNat = 65 := rfl
  have hF : 'F'.toNat = 70 := rfl
  unfold hexValue? HexDigit
  simp only [char_le_iff, Bool.and_eq_true, decide_eq_true_eq, h0, h9, ha, hf, hA, hF]
  split_ifs
  · rw [Option.some_inj]; omega
  · rw [Option.some_inj]; omega
  · rw [Option.some_inj]; omega
  · rw [false_iff]; omega

/-- Four hexadecimal digits, with the number that they write. -/
def HexNumber (a b c d : Char) (n : Nat) : Prop :=
  ∃ i j k l, HexDigit a i ∧ HexDigit b j ∧ HexDigit c k ∧ HexDigit d l ∧
    n = ((i * 16 + j) * 16 + k) * 16 + l

theorem hexNumber?_eq_some_iff {a b c d : Char} {n : Nat} :
    hexNumber? a b c d = some n ↔ HexNumber a b c d n := by
  simp only [hexNumber?, bind, Option.bind_eq_some_iff, pure, Option.some.injEq, HexNumber,
    ← hexValue?_eq_some_iff]
  constructor
  · rintro ⟨i, hi, j, hj, k, hk, l, hl, rfl⟩
    exact ⟨i, j, k, l, hi, hj, hk, hl, by omega⟩
  · rintro ⟨i, j, k, l, hi, hj, hk, hl, rfl⟩
    exact ⟨i, hi, j, hj, k, hk, l, hl, by omega⟩

/-! ## Strings -/

/-- What stands between the quotation marks of a string, and the characters that it stands for. -/
inductive Body : List Char → List Char → Prop
  | nil : Body [] []
  /-- A character that stands for itself. -/
  | plain {c : Char} {w s : List Char} (hq : c ≠ '"') (hb : c ≠ '\\') (hc : 0x20 ≤ c.toNat)
      (h : Body w s) : Body (c :: w) (c :: s)
  | short {c e : Char} {w s : List Char} (he : (c, e) ∈ shortEscapes) (h : Body w s) :
      Body ('\\' :: c :: w) (e :: s)
  /-- The code of a character that is no half of a surrogate pair. -/
  | code {a b c d : Char} {n : Nat} {w s : List Char} (hn : HexNumber a b c d n)
      (hs : n < 0xD800 ∨ 0xDFFF < n) (h : Body w s) :
      Body ('\\' :: 'u' :: a :: b :: c :: d :: w) (Char.ofNat n :: s)
  /-- The codes of the two halves of a surrogate pair, the high one first. -/
  | pair {a b c d a' b' c' d' : Char} {high low : Nat} {w s : List Char}
      (hn : HexNumber a b c d high) (hn' : HexNumber a' b' c' d' low)
      (hh : 0xD800 ≤ high ∧ high ≤ 0xDBFF) (hl : 0xDC00 ≤ low ∧ low ≤ 0xDFFF) (h : Body w s) :
      Body ('\\' :: 'u' :: a :: b :: c :: d :: '\\' :: 'u' :: a' :: b' :: c' :: d' :: w)
        (Char.ofNat (0x10000 + (high - 0xD800) * 0x400 + (low - 0xDC00)) :: s)

/-- Two bodies, one after the other. -/
theorem Body.append {w w' s s' : List Char} (h : Body w s) (h' : Body w' s') :
    Body (w ++ w') (s ++ s') := by
  induction h with
  | nil => exact h'
  | plain hq hb hc _ ih => exact .plain hq hb hc ih
  | short he _ ih => exact .short he ih
  | code hn hs _ ih => exact .code hn hs ih
  | pair hn hn' hh hl _ ih => exact .pair hn hn' hh hl ih

/-- Characters that need no escape stand for themselves. -/
theorem Body.of_plain {w : List Char}
    (h : (w.all fun c => c ≠ '"' ∧ c ≠ '\\' ∧ 0x20 ≤ c.toNat) = true) : Body w w := by
  induction w with
  | nil => exact .nil
  | cons c w ih =>
    rw [List.all_cons, Bool.and_eq_true, decide_eq_true_eq] at h
    obtain ⟨⟨hq, hb, hc⟩, hw⟩ := h
    exact .plain hq hb hc (ih hw)

/-- A string literal, and the text that it stands for. -/
inductive Literal : List Char → String → Prop
  | mk {w : List Char} {s : String} (h : Body w s.toList) : Literal ('"' :: (w ++ ['"'])) s

/-! ## Objects -/

/-- Blanks between tokens. -/
def Blanks (a : List Char) : Prop := ∀ c ∈ a, isBlank c = true

/-- Nothing between tokens. -/
def Tight (a : List Char) : Prop := a = []

theorem tight_nil : Tight [] := rfl

theorem Tight.blanks {a : List Char} (h : Tight a) : Blanks a := by
  intro c hc
  rw [h] at hc
  exact absurd hc List.not_mem_nil

section Spaced

variable (ws : List Char → Prop)

/-- A member: a key, a colon and a value, with what is allowed around the colon. -/
inductive Member : List Char → String × String → Prop
  | mk {k a b v : List Char} {e : String × String} (hk : Literal k e.1) (ha : ws a) (hb : ws b)
      (hv : Literal v e.2) : Member (k ++ (a ++ ':' :: (b ++ v))) e

/-- Members with a comma between neighbours, and with what is allowed around each of them. -/
inductive Members : List Char → List (String × String) → Prop
  | one {a cs b : List Char} {e : String × String} (ha : ws a) (h : Member ws cs e) (hb : ws b) :
      Members (a ++ (cs ++ b)) [e]
  | more {a cs b ds : List Char} {e : String × String} {es : List (String × String)} (ha : ws a)
      (h : Member ws cs e) (hb : ws b) (hs : Members ds es) :
      Members (a ++ (cs ++ (b ++ ',' :: ds))) (e :: es)

/-- An object, and its members in the order of the text. -/
inductive Object : List Char → List (String × String) → Prop
  | empty {a : List Char} (ha : ws a) : Object ('\x7b' :: (a ++ ['\x7d'])) []
  | filled {cs : List Char} {es : List (String × String)} (h : Members ws cs es) :
      Object ('\x7b' :: (cs ++ ['\x7d'])) es

end Spaced

section Mono

variable {ws ws' : List Char → Prop} (h : ∀ a, ws a → ws' a)

include h

theorem Member.mono {cs : List Char} {e : String × String} (hm : Member ws cs e) :
    Member ws' cs e := by
  cases hm with
  | mk hk ha hb hv => exact .mk hk (h _ ha) (h _ hb) hv

theorem Members.mono {cs : List Char} {es : List (String × String)} (hm : Members ws cs es) :
    Members ws' cs es := by
  induction hm with
  | one ha hm hb => exact .one (h _ ha) (hm.mono h) (h _ hb)
  | more ha hm hb _ ih => exact .more (h _ ha) (hm.mono h) (h _ hb) ih

theorem Object.mono {cs : List Char} {es : List (String × String)} (ho : Object ws cs es) :
    Object ws' cs es := by
  cases ho with
  | empty ha => exact .empty (h _ ha)
  | filled hm => exact .filled (hm.mono h)

end Mono

end DriverRegistration.Json
