import DriverRegistration.TextMap

/-!
# Maps built from entries

Entries that are inserted one after another give a map that looks up, for every key, the last entry
of that key (`get?_ofList`).  Where every key comes once, the map has these entries whatever the
order in which they were inserted (`ofList_eq_of_perm`), and a map is built again from its own
entries (`ofList_entries`).  What is inserted under a key is lost when the key is bound again or
erased (`insert_insert`, `erase_insert`).
-/

namespace DriverRegistration.TextMap

variable {β : Type}

theorem get?_foldl_insert (es : List (String × β)) (m : TextMap β) (k : String) :
    (es.foldl (fun m e => m.insert e.1 e.2) m).get? k = (es.reverse.lookup k).or (m.get? k) := by
  induction es generalizing m with
  | nil => rfl
  | cons e es ih =>
    obtain ⟨ek, ev⟩ := e
    rw [List.foldl_cons, ih, List.reverse_cons, List.lookup_append, get?_insert, Option.or_assoc]
    by_cases hk : k = ek
    · simp [hk]
    · simp [hk, List.lookup_cons, beq_eq_false_iff_ne.2 hk]

/-- The last entry of a key counts. -/
theorem get?_ofList (es : List (String × β)) (k : String) :
    (ofList es).get? k = es.reverse.lookup k := by
  rw [ofList, get?_foldl_insert, get?_empty, Option.or_none]

/-- Among entries of different keys, a look-up finds those that are there. -/
theorem lookup_eq_some_iff_mem {es : List (String × β)} (h : (es.map Prod.fst).Nodup) {k : String}
    {v : β} : es.lookup k = some v ↔ (k, v) ∈ es := by
  induction es with
  | nil => simp
  | cons e es ih =>
    obtain ⟨hnot, hes⟩ := List.nodup_cons.1 h
    obtain ⟨ek, ev⟩ := e
    by_cases hk : k = ek
    · subst hk
      have hmem : (k, v) ∉ es := fun hv => hnot (List.mem_map.2 ⟨_, hv, rfl⟩)
      simp [hmem, eq_comm]
    · simp [List.lookup_cons, beq_eq_false_iff_ne.2 hk, hk, ih hes]

theorem get?_ofList_eq_some_iff {es : List (String × β)} (h : (es.map Prod.fst).Nodup) {k : String}
    {v : β} : (ofList es).get? k = some v ↔ (k, v) ∈ es := by
  have hrev : (es.reverse.map Prod.fst).Nodup :=
    (es.reverse_perm.map Prod.fst).nodup_iff.2 h
  rw [get?_ofList, lookup_eq_some_iff_mem hrev, List.mem_reverse]

/-- The order in which entries of different keys are inserted does not matter. -/
theorem ofList_eq_of_perm {es es' : List (String × β)} (hp : es.Perm es')
    (h : (es.map Prod.fst).Nodup) : ofList es = ofList es' := by
  have h' : (es'.map Prod.fst).Nodup := (hp.map Prod.fst).nodup_iff.1 h
  refine ext_get? fun k => Option.ext fun v => ?_
  rw [get?_ofList_eq_some_iff h, get?_ofList_eq_some_iff h', hp.mem_iff]

/-- The keys of a map are different. -/
theorem nodup_keys (m : TextMap β) : (m.entries.map Prod.fst).Nodup := by
  refine List.pairwise_map.2 (m.sorted.imp fun {a b} hab heq => ?_)
  rw [heq] at hab
  exact List.lt_irrefl _ hab

theorem ofList_entries (m : TextMap β) : ofList m.entries = m :=
  ext_get? fun k => Option.ext fun v => by
    rw [get?_ofList_eq_some_iff m.nodup_keys, get?_eq_some_iff]

/-! ## One map over another -/

/-- A map with the entries of another one inserted. -/
def overlaid (m n : TextMap β) : TextMap β := n.entries.foldl (fun m e => m.insert e.1 e.2) m

theorem get?_overlaid (m n : TextMap β) (k : String) :
    (m.overlaid n).get? k = (n.get? k).or (m.get? k) := by
  rw [overlaid, get?_foldl_insert, ← get?_ofList, ofList_entries]

@[simp] theorem empty_overlaid (m : TextMap β) : empty.overlaid m = m := m.ofList_entries

/-! ## One key twice -/

theorem insert_insert (m : TextMap β) (k : String) (v w : β) :
    (m.insert k v).insert k w = m.insert k w := by
  apply ext_get?
  intro j
  simp only [get?_insert]
  by_cases hj : j = k
  · simp only [if_pos hj]
  · simp only [if_neg hj]

theorem erase_insert (m : TextMap β) (k : String) (v : β) : (m.insert k v).erase k = m.erase k := by
  apply ext_get?
  intro j
  simp only [get?_erase, get?_insert]
  by_cases hj : j = k
  · simp only [if_pos hj]
  · simp only [if_neg hj]

end DriverRegistration.TextMap
