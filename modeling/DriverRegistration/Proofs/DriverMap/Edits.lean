import DriverRegistration.Proofs.Reconcile.Proposal

/-!
# Edits made one after another

Edits of different drivers do not see each other: in whatever order they are made, the entry of each
driver becomes what its edit makes of it, and all other entries stay (`runs_eq_of_perm`,
`get?_runs_of_mem`, `get?_runs_of_not_mem`).  The map changes as often as the first map does not
reflect one of the edits (`changes_eq_countP`).
-/

namespace DriverRegistration.DriverEdit

/-- Make edits one after another. -/
def runs (es : List DriverEdit) (m : DriverMap) : DriverMap := es.foldl (fun m e => e.run m) m

theorem runs_append (es es' : List DriverEdit) (m : DriverMap) :
    runs (es ++ es') m = runs es' (runs es m) :=
  List.foldl_append

theorem runs_concat (es : List DriverEdit) (e : DriverEdit) (m : DriverMap) :
    runs (es ++ [e]) m = e.run (runs es m) :=
  runs_append es [e] m

/-- Edits of other drivers leave an entry as it is. -/
theorem get?_runs_of_not_mem {es : List DriverEdit} {k : String} (h : k ∉ es.map driver)
    (m : DriverMap) : (runs es m).get? k = m.get? k := by
  induction es generalizing m with
  | nil => rfl
  | cons e es ih =>
    rw [List.map_cons, List.mem_cons, not_or] at h
    show (runs es (e.run m)).get? k = _
    rw [ih h.2, get?_run, if_neg h.1]

variable {es es' : List DriverEdit}

/-- Among edits of different drivers, each makes of its entry what it would alone. -/
theorem get?_runs_of_mem (hd : (es.map driver).Nodup) {e : DriverEdit} (he : e ∈ es)
    (m : DriverMap) : (runs es m).get? e.driver = e.target := by
  obtain ⟨before, after, rfl⟩ := List.append_of_mem he
  have hnot : e.driver ∉ after.map driver := by
    rw [List.map_append, List.map_cons] at hd
    exact (List.nodup_cons.1 (List.nodup_append.1 hd).2.1).1
  rw [runs_append]
  show (runs after (e.run (runs before m))).get? e.driver = _
  rw [get?_runs_of_not_mem hnot, get?_run, if_pos rfl]

/-- The order of edits of different drivers does not matter. -/
theorem runs_eq_of_perm (hp : es.Perm es') (hd : (es.map driver).Nodup) (m : DriverMap) :
    runs es m = runs es' m := by
  have hp' : (es.map driver).Perm (es'.map driver) := hp.map driver
  refine TextMap.ext_get? fun k => ?_
  by_cases hk : k ∈ es.map driver
  · obtain ⟨e, he, rfl⟩ := List.mem_map.1 hk
    rw [get?_runs_of_mem hd he, get?_runs_of_mem (hp'.nodup_iff.1 hd) (hp.mem_iff.1 he)]
  · have hk' : k ∉ es'.map driver := fun h => hk (hp'.mem_iff.2 h)
    rw [get?_runs_of_not_mem hk, get?_runs_of_not_mem hk']

/-! ## The number of changes -/

/-- How often the map changes while edits are made one after another. -/
def changes : List DriverEdit → DriverMap → Nat
  | [], _ => 0
  | e :: es, m => (!e.holds m).toNat + changes es (e.run m)

theorem changes_concat (es : List DriverEdit) (e : DriverEdit) (m : DriverMap) :
    changes (es ++ [e]) m = changes es m + (!e.holds (runs es m)).toNat := by
  induction es generalizing m with
  | nil => exact Nat.add_comm _ _
  | cons e' es ih =>
    show (!e'.holds m).toNat + changes (es ++ [e]) (e'.run m) = _
    rw [ih, ← Nat.add_assoc]
    rfl

theorem changes_le_length (es : List DriverEdit) (m : DriverMap) : changes es m ≤ es.length := by
  induction es generalizing m with
  | nil => exact Nat.le_refl _
  | cons e es ih =>
    have hrest := ih (e.run m)
    have hfirst := Bool.toNat_le (!e.holds m)
    simp only [changes, List.length_cons]
    omega

/-- Whether a map reflects an edit does not depend on edits of other drivers. -/
theorem holds_run_of_ne {e e' : DriverEdit} (h : e'.driver ≠ e.driver) (m : DriverMap) :
    e'.holds (e.run m) = e'.holds m := by
  unfold holds
  rw [get?_run, if_neg h]

theorem changes_eq_countP (hd : (es.map driver).Nodup) (m : DriverMap) :
    changes es m = es.countP fun e => !e.holds m := by
  induction es generalizing m with
  | nil => rfl
  | cons e es ih =>
    obtain ⟨hnot, hes⟩ := List.nodup_cons.1 hd
    have hrest : (es.countP fun e' => !e'.holds (e.run m)) = es.countP fun e' => !e'.holds m := by
      refine List.countP_congr fun e' he' => ?_
      have hne : e'.driver ≠ e.driver := fun h => hnot (h ▸ List.mem_map_of_mem he')
      rw [holds_run_of_ne hne]
    rw [changes, ih hes, hrest, List.countP_cons, Nat.add_comm]
    cases e.holds m with
    | true => rfl
    | false => rfl

end DriverRegistration.DriverEdit
