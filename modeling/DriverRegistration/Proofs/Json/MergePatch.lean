import DriverRegistration.Json.Value
import DriverRegistration.Proofs.TextMap

/-!
# Merge patches

A merge patch that is an object says what becomes of single members of its target: null drops a
member, any other value is merged into it, and members that the patch does not name stay as they
are.  A patch that is no object takes the place of its target.

`get?_merge_object` gives the members of the outcome, and everything else follows from it.  An
object of texts that is merged into another one drops nothing, so the outcome holds exactly these
texts only if it names all the keys that were there (`texts_merge`).
-/

namespace DriverRegistration.Json.Value

/-! ## Merging -/

/-- The members of a value; one that is no object has none. -/
def members : Value → List (String × Value)
  | object ms => ms
  | _ => []

mutual

/-- A value with a patch merged into it. -/
def merge (target : Value) : Value → Value
  | object ps => object (mergeMembers target.members ps)
  | patch => patch

/-- Members with those of a patch merged into them. -/
def mergeMembers (ms : List (String × Value)) : List (String × Value) → List (String × Value)
  | [] => ms
  | (k, null) :: ps => mergeMembers (ms.filter (·.1 ≠ k)) ps
  | (k, p) :: ps => mergeMembers (setMember k (merge ((ms.lookup k).getD null) p) ms) ps

end

example : merge (.object [("a", .text "b"), ("c", .object [("d", .text "e"), ("f", .text "g")])])
    (.object [("a", .text "z"), ("c", .object [("f", .null)])]) =
    .object [("a", .text "z"), ("c", .object [("d", .text "e")])] := rfl

/-! ## Members of the outcome -/

/-- What a patch makes of a member: nothing if it does not name it. -/
def patched (old : Option Value) : Option Value → Option Value
  | none => old
  | some null => none
  | some p => some ((old.getD null).merge p)

theorem get?_eq_lookup (v : Value) (k : String) : v.get? k = v.members.lookup k := by
  cases v <;> rfl

theorem patched_some {p : Value} (hp : p ≠ null) (old : Option Value) :
    patched old (some p) = some ((old.getD null).merge p) := by
  cases p <;> first | rfl | exact absurd rfl hp

theorem mergeMembers_cons_null (ms ps : List (String × Value)) (k : String) :
    mergeMembers ms ((k, null) :: ps) = mergeMembers (ms.filter (·.1 ≠ k)) ps := by
  rw [mergeMembers]

theorem mergeMembers_cons {p : Value} (hp : p ≠ null) (ms ps : List (String × Value)) (k : String) :
    mergeMembers ms ((k, p) :: ps) =
      mergeMembers (setMember k (merge ((ms.lookup k).getD null) p) ms) ps := by
  rw [mergeMembers]
  exact fun h => hp h

theorem lookup_eq_none_of_not_mem {k : String} {ps : List (String × Value)}
    (h : k ∉ ps.map Prod.fst) : ps.lookup k = none := by
  refine List.lookup_eq_none_iff.2 fun p hp => bne_iff_ne.2 ?_
  rintro rfl
  exact h (List.mem_map_of_mem hp)

theorem lookup_mergeMembers {ps : List (String × Value)} (hps : (ps.map Prod.fst).Nodup)
    (ms : List (String × Value)) (k : String) :
    (mergeMembers ms ps).lookup k = patched (ms.lookup k) (ps.lookup k) := by
  induction ps generalizing ms with
  | nil => rfl
  | cons entry ps ih =>
    obtain ⟨j, p⟩ := entry
    obtain ⟨hnot, hrest⟩ := List.nodup_cons.1 hps
    by_cases hk : k = j
    · -- what comes later in the patch does not name this member again
      subst hk
      have hlater : ps.lookup k = none := lookup_eq_none_of_not_mem hnot
      by_cases hp : p = null
      · rw [hp, mergeMembers_cons_null, ih hrest, hlater, TextMap.lookup_filter_ne, if_pos rfl,
          List.lookup_cons_self]
        rfl
      · rw [mergeMembers_cons hp, ih hrest, hlater, lookup_setMember, if_pos rfl,
          List.lookup_cons_self, patched_some hp]
        rfl
    · have hskip : ((j, p) :: ps).lookup k = ps.lookup k := by
        rw [List.lookup_cons, beq_eq_false_iff_ne.2 hk]
      by_cases hp : p = null
      · rw [hskip, hp, mergeMembers_cons_null, ih hrest, TextMap.lookup_filter_ne, if_neg hk]
      · rw [hskip, mergeMembers_cons hp, ih hrest, lookup_setMember, if_neg hk]

/-- The members of an object with a patch merged into it. -/
theorem get?_merge_object {ps : List (String × Value)} (hps : (ps.map Prod.fst).Nodup) (v : Value)
    (k : String) : (v.merge (object ps)).get? k = patched (v.get? k) (ps.lookup k) := by
  rw [get?_eq_lookup v, merge]
  exact lookup_mergeMembers hps v.members k

/-! ## Keys stay different -/

theorem mem_keys_setMember {k j : String} {v : Value} {ms : List (String × Value)}
    (h : j ∈ (setMember k v ms).map Prod.fst) : j = k ∨ j ∈ ms.map Prod.fst := by
  induction ms with
  | nil => exact .inl (List.mem_singleton.1 h)
  | cons m ms ih =>
    rw [setMember] at h
    split at h
    · exact (List.mem_cons.1 h).imp_right fun hm => List.mem_cons_of_mem _ hm
    · rcases List.mem_cons.1 h with rfl | hm
      · exact .inr List.mem_cons_self
      · exact (ih hm).imp_right fun hm => List.mem_cons_of_mem _ hm

theorem nodup_setMember {ms : List (String × Value)} (h : (ms.map Prod.fst).Nodup) (k : String)
    (v : Value) : ((setMember k v ms).map Prod.fst).Nodup := by
  induction ms with
  | nil => exact List.nodup_cons.2 ⟨List.not_mem_nil, .nil⟩
  | cons m ms ih =>
    obtain ⟨hnot, hms⟩ := List.nodup_cons.1 h
    rw [setMember]
    split
    · next hm => exact List.nodup_cons.2 ⟨hm ▸ hnot, hms⟩
    · next hm =>
      refine List.nodup_cons.2 ⟨fun hmem => ?_, ih hms⟩
      rcases mem_keys_setMember hmem with hk | hmem
      · exact hm hk
      · exact hnot hmem

theorem nodup_mergeMembers (ps : List (String × Value)) {ms : List (String × Value)}
    (h : (ms.map Prod.fst).Nodup) : ((mergeMembers ms ps).map Prod.fst).Nodup := by
  induction ps generalizing ms with
  | nil => exact h
  | cons entry ps ih =>
    obtain ⟨k, p⟩ := entry
    by_cases hp : p = null
    · rw [hp, mergeMembers_cons_null]
      exact ih (h.sublist ((List.filter_sublist).map Prod.fst))
    · rw [mergeMembers_cons hp]
      exact ih (nodup_setMember h k _)

/-! ## Objects of texts -/

/-- A value is an object of texts, whose members are the entries of a map in whatever order. -/
def Texts (v : Value) (m : TextMap String) : Prop :=
  ∃ ms, v = object ms ∧ (ms.map Prod.fst).Nodup ∧ ∀ k, ms.lookup k = (m.get? k).map text

theorem Texts.get? {v : Value} {m : TextMap String} (h : v.Texts m) (k : String) :
    v.get? k = (m.get? k).map text := by
  obtain ⟨ms, rfl, -, hlookup⟩ := h
  exact hlookup k

theorem Texts.nodup_members {v : Value} {m : TextMap String} (h : v.Texts m) :
    (v.members.map Prod.fst).Nodup := by
  obtain ⟨ms, rfl, hnodup, -⟩ := h
  exact hnodup

theorem lookup_map_text (es : List (String × String)) (k : String) :
    (es.map fun e => (e.1, text e.2)).lookup k = (es.lookup k).map text := by
  induction es with
  | nil => rfl
  | cons e es ih =>
    obtain ⟨ek, es'⟩ := e
    by_cases hk : k = ek
    · simp [hk]
    · simp [List.lookup_cons, beq_eq_false_iff_ne.2 hk, ih]

theorem nodup_map_text (m : TextMap String) :
    ((m.entries.map fun e => (e.1, text e.2)).map Prod.fst).Nodup := by
  rw [List.map_map]
  exact m.nodup_keys

theorem keys_filterMap_text (ms : List (String × Value)) :
    ((ms.filterMap fun m => m.2.text?.map (m.1, ·)).map Prod.fst).Sublist (ms.map Prod.fst) := by
  induction ms with
  | nil => exact .slnil
  | cons m ms ih =>
    obtain ⟨k, v⟩ := m
    cases v with
    | text s => exact ih.cons_cons k
    | _ => exact ih.cons k

theorem mem_filterMap_text {ms : List (String × Value)} {k s : String} :
    (k, s) ∈ ms.filterMap (fun m => m.2.text?.map (m.1, ·)) ↔ (k, text s) ∈ ms := by
  rw [List.mem_filterMap]
  constructor
  · rintro ⟨⟨j, v⟩, hmem, heq⟩
    obtain ⟨s', hv, hpair⟩ := Option.map_eq_some_iff.1 heq
    cases v with
    | text _ =>
      cases hv
      cases hpair
      exact hmem
    | _ => cases hv
  · exact fun hmem => ⟨(k, text s), hmem, rfl⟩

/-- The texts of an object of texts are read as its map. -/
theorem Texts.textMap? {v : Value} {m : TextMap String} (h : v.Texts m) :
    v.textMap? = some m := by
  obtain ⟨ms, rfl, hnodup, hlookup⟩ := h
  refine congrArg some (TextMap.ext_get? fun k => Option.ext fun s => ?_)
  have htext : (m.get? k).map text = some (text s) ↔ m.get? k = some s := by
    cases m.get? k <;> simp
  rw [TextMap.get?_ofList_eq_some_iff (hnodup.sublist (keys_filterMap_text ms)),
    mem_filterMap_text, ← TextMap.lookup_eq_some_iff_mem hnodup, hlookup, htext]

/-- Texts that name every key of an object take the place of all that it held. -/
theorem texts_merge {v : Value} (hv : (v.members.map Prod.fst).Nodup) {m : TextMap String}
    (hkeys : ∀ k, v.get? k ≠ none → m.get? k ≠ none) : (v.merge (ofTextMap m)).Texts m := by
  refine ⟨mergeMembers v.members (m.entries.map fun e => (e.1, text e.2)), ?_,
    nodup_mergeMembers _ hv, fun k => ?_⟩
  · rw [ofTextMap, merge]
  · rw [lookup_mergeMembers (nodup_map_text m), lookup_map_text, ← get?_eq_lookup]
    show patched (v.get? k) ((m.get? k).map text) = _
    cases hm : m.get? k with
    | none => exact Classical.not_not.1 fun hne => hkeys k hne hm
    | some s => rfl

end DriverRegistration.Json.Value
