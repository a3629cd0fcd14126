import DriverRegistration.DriverMap
import DriverRegistration.Proofs.Json.Reading
import DriverRegistration.Proofs.Json.Writing
import DriverRegistration.Proofs.TextMap
import Mathlib.Control.Monad.Basic

/-!
# Writing and reading driver maps

* `decode_of_object`: every object of strings is read, with any blanks between its tokens, and gives
  the map that its members describe.
* `decode_encode`: a driver map that was written is read back as it was.
* `encode_canonical`: the written text is the canonical form of the map.  It depends on the look-ups
  alone, has every key once and in byte order, has no blanks between its tokens, and whatever text
  is read is brought to this form by one writing.
-/

namespace DriverRegistration.DriverMap

open Json Text

/-! ## Reading -/

/-- A member of a driver map sets its key. -/
theorem member_readsText : ReadsText member fun m e => m.insert e.1 e.2 := by
  intro e m a b v ha hb hv rest
  simp only [member, colon_append ha, textValue_append hb hv, bind, Except.bind, pure, Except.pure]

theorem value_of_object {a cs : List Char} {es : List (String × String)} (ha : Blanks a)
    (h : Object Blanks cs es) (rest : List Char) :
    value (a ++ (cs ++ rest)) = .ok (TextMap.ofList es, rest) := by
  obtain ⟨ds, rfl⟩ : ∃ ds, cs = '\x7b' :: ds := by
    cases h with
    | empty _ => exact ⟨_, rfl⟩
    | filled _ => exact ⟨_, rfl⟩
  have hstart : skipBlanks (a ++ ('\x7b' :: ds ++ rest)) = '\x7b' :: (ds ++ rest) :=
    skipBlanks_append_cons ha rfl _
  simp only [value, hstart]
  exact object_append member_readsText h TextMap.empty rfl rest

/-- An object of strings is read, with any blanks between its tokens and around it. -/
theorem document_of_object {a b cs : List Char} {es : List (String × String)} (ha : Blanks a)
    (h : Object Blanks cs es) (hb : Blanks b) :
    document (a ++ (cs ++ b)) = .ok (TextMap.ofList es) := by
  simp only [document, value_of_object ha h, endOfText_of_blanks hb, bind, Except.bind, pure,
    Except.pure]

theorem decode_of_object {raw : String} {a b cs : List Char} {es : List (String × String)}
    (hraw : raw.toList = a ++ (cs ++ b)) (ha : Blanks a) (h : Object Blanks cs es)
    (hb : Blanks b) : decode (some raw) = .ok (TextMap.ofList es) := by
  have hne : raw ≠ "" := by
    rintro rfl
    have hcs : cs = [] := by
      have := List.append_eq_nil_iff.1 hraw.symm
      exact (List.append_eq_nil_iff.1 this.2).1
    rw [hcs] at h
    cases h
  simp only [decode, if_neg hne, hraw, document_of_object ha h hb]

/-! ## Writing -/

theorem toList_encode (m : DriverMap) : (encode m).toList = writtenTextMap m :=
  String.toList_ofList

/-- The text of a map is an object of its entries, in their order and without blanks. -/
theorem object_encode (m : DriverMap) : Object Tight (encode m).toList m.entries := by
  rw [toList_encode]
  exact object_writtenTextMap m

theorem encode_ne_empty (m : DriverMap) : encode m ≠ "" := by
  intro h
  have ho := object_encode m
  rw [h] at ho
  cases ho

/-- A driver map that was written is read back as it was. -/
@[simp] theorem decode_encode (m : DriverMap) : decode (some (encode m)) = .ok m := by
  have ho : Object Blanks (encode m).toList m.entries :=
    (object_encode m).mono fun _ => Tight.blanks
  have hnil : Blanks [] := tight_nil.blanks
  have hread := decode_of_object (List.append_nil _).symm hnil ho hnil
  rwa [TextMap.ofList_entries] at hread

theorem encode_inj {m n : DriverMap} (h : encode m = encode n) : m = n := by
  have hm := decode_encode m
  rw [h, decode_encode] at hm
  exact (Except.ok.inj hm).symm

/-! ## The canonical form -/

/-- The text of a driver map is its canonical form: it is read back as the map, differs for
different maps, is the object of the entries in byte order of their keys without blanks, whatever
order they were inserted in, and is what any text of the map becomes by one reading and writing. -/
theorem encode_canonical :
    (∀ m : DriverMap, encode m ≠ "" ∧ decode (some (encode m)) = .ok m) ∧
      Function.Injective encode ∧
      (∀ m n : DriverMap, (∀ k, m.get? k = n.get? k) → encode m = encode n) ∧
      (∀ es es' : List (String × String), es.Perm es' → (es.map Prod.fst).Nodup →
        encode (TextMap.ofList es) = encode (TextMap.ofList es')) ∧
      (∀ m : DriverMap, ∃ es : List (String × String), (∀ k v, (k, v) ∈ es ↔ m.get? k = some v) ∧
        (es.Pairwise fun a b => utf8 a.1 < utf8 b.1) ∧ Object Tight (encode m).toList es) ∧
      ∀ (raw : Option String) (m : DriverMap), decode raw = .ok m →
        decode (some (encode m)) = decode raw ∧
          ∀ m', decode (some (encode m)) = .ok m' → encode m' = encode m := by
  refine ⟨?_, ?_, ?_, ?_, ?_, ?_⟩
  · intro m
    exact ⟨encode_ne_empty m, decode_encode m⟩
  · intro m n h
    exact encode_inj h
  · intro m n h
    rw [TextMap.ext_get? h]
  · intro es es' hp hk
    rw [TextMap.ofList_eq_of_perm hp hk]
  · intro m
    exact ⟨m.entries, fun k v => TextMap.get?_eq_some_iff.symm, m.sorted, object_encode m⟩
  · intro raw m h
    refine ⟨(decode_encode m).trans h.symm, fun m' h' => ?_⟩
    rw [decode_encode] at h'
    rw [Except.ok.inj h']

/-- A text with blanks, with its keys out of order and with an escape that is not needed is brought
to the canonical form, whatever order the entries are inserted in. -/
theorem encode_canonical_of_spaced :
    decode (some "\x7b \"b\" : \"1\",\n\"a\":\"\\u0041\" \x7d") =
        .ok (.ofList [("b", "1"), ("a", "A")]) ∧
      decode (some (encode (.ofList [("b", "1"), ("a", "A")]))) =
        decode (some "\x7b \"b\" : \"1\",\n\"a\":\"\\u0041\" \x7d") ∧
      encode (.ofList [("b", "1"), ("a", "A")]) = encode (.ofList [("a", "A"), ("b", "1")]) := by
  obtain ⟨-, -, -, horder, -, hread⟩ := encode_canonical
  have hraw : decode (some "\x7b \"b\" : \"1\",\n\"a\":\"\\u0041\" \x7d") =
      .ok (.ofList [("b", "1"), ("a", "A")]) := by decide +kernel
  exact ⟨hraw, (hread _ _ hraw).1, horder _ _ (.swap _ _ _) (by decide)⟩

example : encode (.ofList [("b", "1"), ("a", "A")]) = "\x7b\"a\":\"A\",\"b\":\"1\"\x7d" := by
  decide +kernel

end DriverRegistration.DriverMap
