import DriverRegistration.Proofs.DriverMap.Codec
import DriverRegistration.Proofs.Json.Accepting

/-!
# The values that stand for driver maps

`DriverMap.Denotes` says which values stand for which driver maps, without a reader: no value and
the empty one, `null`, and an object of strings, where the last member of a key counts.  Blanks may
stand around every token.  A value is decoded exactly if it stands for a map, and is then decoded to
that map; every other one is refused and kept as it is (`decode_grammar`).
-/

namespace DriverRegistration

namespace TextMap

/-- The last entry of a key. -/
def LastEntry {β : Type} (es : List (String × β)) (k : String) (v : β) : Prop :=
  ∃ before after, es = before ++ (k, v) :: after ∧ ∀ e ∈ after, e.1 ≠ k

theorem get?_ofList_eq_some_iff_lastEntry {β : Type} {es : List (String × β)} {k : String} {v : β} :
    (ofList es).get? k = some v ↔ LastEntry es k v := by
  rw [get?_ofList, List.lookup_eq_some_iff]
  constructor
  · rintro ⟨after, before, hes, hafter⟩
    refine ⟨before.reverse, after.reverse, ?_, ?_⟩
    · rw [← List.reverse_reverse es, hes]
      simp
    · intro e he hk
      have hne := hafter e (List.mem_reverse.1 he)
      rw [hk] at hne
      simp at hne
  · rintro ⟨before, after, rfl, hafter⟩
    refine ⟨after.reverse, before.reverse, by simp, ?_⟩
    intro e he
    have hne := hafter e (List.mem_reverse.1 he)
    simpa using Ne.symm hne

/-- A map that looks up the last entries is the one that the entries describe. -/
theorem eq_ofList_iff {β : Type} {es : List (String × β)} {m : TextMap β} :
    m = ofList es ↔ ∀ k v, m.get? k = some v ↔ LastEntry es k v := by
  constructor
  · rintro rfl k v
    exact get?_ofList_eq_some_iff_lastEntry
  · intro h
    refine ext_get? fun k => Option.ext fun v => ?_
    rw [h, get?_ofList_eq_some_iff_lastEntry]

end TextMap

namespace DriverMap

open Json TextMap

/-- The driver map that a value stands for. -/
inductive Denotes : Option String → DriverMap → Prop
  | absent : Denotes none .empty
  | empty : Denotes (some "") .empty
  | null {raw : String} {a b : List Char} (ha : Blanks a) (hb : Blanks b)
      (hraw : raw.toList = a ++ ('n' :: 'u' :: 'l' :: 'l' :: b)) : Denotes (some raw) .empty
  | object {raw : String} {a cs b : List Char} {es : List (String × String)} {m : DriverMap}
      (ha : Blanks a) (ho : Object Blanks cs es) (hb : Blanks b)
      (hraw : raw.toList = a ++ (cs ++ b)) (hm : ∀ k v, m.get? k = some v ↔ LastEntry es k v) :
      Denotes (some raw) m

/-! ## What stands for a map is decoded -/

theorem document_of_null {a b : List Char} (ha : Blanks a) (hb : Blanks b) :
    document (a ++ ('n' :: 'u' :: 'l' :: 'l' :: b)) = .ok .empty := by
  have hvalue : value (a ++ ('n' :: 'u' :: 'l' :: 'l' :: b)) = .ok (.empty, b) := by
    simp only [value, skipBlanks_append_cons ha (show isBlank 'n' = false from rfl)]
    rfl
  simp only [document, hvalue, endOfText_of_blanks hb, bind, Except.bind, pure, Except.pure]

theorem Denotes.decode_eq {raw : Option String} {m : DriverMap} (h : Denotes raw m) :
    decode raw = .ok m := by
  cases h with
  | absent => rfl
  | empty => rfl
  | @null raw a b ha hb hraw =>
    have hne : raw ≠ "" := by
      rintro rfl
      exact absurd hraw.symm (by simp)
    simp only [decode, if_neg hne, hraw, document_of_null ha hb]
  | object ha ho hb hraw hm =>
    rw [eq_ofList_iff.2 hm]
    exact decode_of_object hraw ha ho hb

/-! ## What is decoded stands for a map -/

theorem member_takesText : TakesText member fun m e => m.insert e.1 e.2 := by
  intro k m m' cs rest h
  obtain ⟨ds, hcolon, hvalue⟩ := bind_eq_ok_iff.1 h
  obtain ⟨⟨value, rest'⟩, htext, hinsert⟩ := bind_eq_ok_iff.1 hvalue
  obtain ⟨a, ha, rfl⟩ := exists_colon hcolon
  obtain ⟨b, v, hb, hv, rfl⟩ := exists_literal htext
  cases hinsert
  exact ⟨a, b, v, value, ha, hb, hv, rfl, rfl⟩

/-- What is read as a value is `null` or an object of strings, after any blanks. -/
theorem exists_of_value {cs rest : List Char} {m : DriverMap} (h : value cs = .ok (m, rest)) :
    ∃ a, Blanks a ∧
      ((m = .empty ∧ cs = a ++ ('n' :: 'u' :: 'l' :: 'l' :: rest)) ∨
        ∃ ds es, Object Blanks ds es ∧ m = ofList es ∧ cs = a ++ (ds ++ rest)) := by
  obtain ⟨a, ha, hcs⟩ := exists_blanks cs
  refine ⟨a, ha, ?_⟩
  unfold value at h
  split at h
  · cases h
  · next r hskip =>
    obtain ⟨rest', hnull, hrest⟩ := bind_eq_ok_iff.1 h
    cases hrest
    rw [hskip, eq_of_literal hnull] at hcs
    exact Or.inl ⟨rfl, hcs⟩
  · next r hskip =>
    obtain ⟨ds, es, hr, ho, hm⟩ := exists_object member_takesText h
    rw [hskip, hr] at hcs
    exact Or.inr ⟨_, es, ho, (Except.ok.inj hm).symm, hcs⟩
  · cases h

theorem denotes_of_document {raw : String} {m : DriverMap} (h : document raw.toList = .ok m) :
    Denotes (some raw) m := by
  obtain ⟨⟨m', rest⟩, hvalue, hdocument⟩ := bind_eq_ok_iff.1 h
  obtain ⟨_, hend, hm'⟩ := bind_eq_ok_iff.1 hdocument
  cases hm'
  have hrest := blanks_of_endOfText hend
  obtain ⟨a, ha, ⟨rfl, hcs⟩ | ⟨ds, es, ho, hm, hcs⟩⟩ := exists_of_value hvalue
  · exact .null ha hrest hcs
  · exact .object ha ho hrest hcs (eq_ofList_iff.1 hm)

/-! ## The theorem -/

/-- Decoding either gives a map or refuses the value, which it then keeps as it is. -/
theorem decode_cases (raw : Option String) :
    (∃ m, decode raw = .ok m ∧ Denotes raw m) ∨
      ∃ text fault, raw = some text ∧ decode raw = .error ⟨text, fault⟩ := by
  cases raw with
  | none => exact Or.inl ⟨_, rfl, .absent⟩
  | some text =>
    by_cases hempty : text = ""
    · rw [hempty]
      exact Or.inl ⟨_, rfl, .empty⟩
    · simp only [decode, if_neg hempty]
      cases hd : document text.toList with
      | ok m => exact Or.inl ⟨m, rfl, denotes_of_document hd⟩
      | error fault => exact Or.inr ⟨text, fault, rfl, rfl⟩

/-- A value is decoded exactly if it stands for a driver map, and then to this map.  It is refused
exactly if it stands for none, and then the refusal holds it as it is. -/
theorem decode_grammar (raw : Option String) :
    (∀ m, decode raw = .ok m ↔ Denotes raw m) ∧
      ∀ text, (∃ fault, decode raw = .error ⟨text, fault⟩) ↔
        raw = some text ∧ ∀ m, ¬ Denotes raw m := by
  rcases decode_cases raw with ⟨m₀, hdecode, hdenotes⟩ | ⟨text₀, fault₀, rfl, hdecode⟩
  · refine ⟨fun m => ⟨fun h => ?_, Denotes.decode_eq⟩, fun text => ⟨?_, ?_⟩⟩
    · rw [hdecode] at h
      exact Except.ok.inj h ▸ hdenotes
    · rintro ⟨fault, h⟩
      rw [hdecode] at h
      cases h
    · rintro ⟨-, hnone⟩
      exact absurd hdenotes (hnone m₀)
  · have hnone : ∀ m, ¬ Denotes (some text₀) m := by
      intro m hm
      have h := hm.decode_eq
      rw [hdecode] at h
      cases h
    refine ⟨fun m => ⟨fun h => ?_, Denotes.decode_eq⟩, fun text => ⟨?_, ?_⟩⟩
    · rw [hdecode] at h
      cases h
    · rintro ⟨fault, h⟩
      rw [hdecode] at h
      cases h
      exact ⟨rfl, hnone⟩
    · rintro ⟨htext, -⟩
      cases htext
      exact ⟨fault₀, hdecode⟩

example : decode (some " \x7b\"a\" : \"1\", \"\\u0061\":\"\\ud83d\\ude00\"\x7d\n") =
    .ok (.ofList [("a", "😀")]) := by decide +kernel

example : (decode (some "\x7b\"a\":\"\\ud83d\"\x7d")).toOption = none := by decide +kernel

end DriverMap

end DriverRegistration
