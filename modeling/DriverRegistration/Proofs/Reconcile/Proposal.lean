import DriverRegistration.Node.MemoryStore
import DriverRegistration.Reconcile.Task

/-!
# What an edit proposes to write

An edit that has read a record proposes another one: the same record with the edited driver map
under its key, or nothing when the map that was read reflects the edit already.

* `EditTask.proposal_eq_some_iff` and `EditTask.proposal_eq_none_iff` say when it does which.
* `EditTask.value?_revised` and `EditTask.value?_revised_of_ne` say what the proposed record holds
  under the key of the edit, and under every other one.
-/

namespace DriverRegistration

/-! ## Edits of a map -/

namespace DriverEdit

variable {e : DriverEdit} {m : DriverMap}

theorem holds_iff : e.holds m = true ↔ m.get? e.driver = e.target :=
  decide_eq_true_iff

/-- An edit changes exactly the maps that do not reflect it. -/
theorem run_ne_self_iff : e.run m ≠ m ↔ e.holds m = false := by
  constructor
  · intro hne
    exact Bool.eq_false_iff.2 fun h => hne (run_eq_self h)
  · intro h hrun
    have hholds := holds_run e m
    rw [hrun, h] at hholds
    cases hholds

theorem apply_eq_none_iff : e.apply m = none ↔ e.holds m = true := by
  unfold apply
  split
  · next h => exact ⟨fun _ => h, fun _ => rfl⟩
  · next h => exact ⟨fun hm => absurd hm (Option.some_ne_none _), fun hh => absurd hh h⟩

theorem apply_eq_some_iff {m' : DriverMap} :
    e.apply m = some m' ↔ e.run m ≠ m ∧ m' = e.run m := by
  rw [run_ne_self_iff]
  unfold apply
  split
  · next h => simp [h]
  · next h => simp [h, eq_comm]

end DriverEdit

/-! ## Values under a key -/

theorem MemoryStore.record?_of_get? {s : MemoryStore} {name : String} {n : StoredNode}
    (hn : s.nodes.get? name = some n) : s.record? name = some n.record := by
  rw [record?, hn]
  rfl

theorem MemoryStore.value?_of_get? {s : MemoryStore} {name : String} {n : StoredNode}
    (hn : s.nodes.get? name = some n) (key : String) :
    s.value? name key = n.record.value? key := by
  rw [value?, record?_of_get? hn]
  rfl

/-- Annotations are looked up the same whether there is no map of them or an empty one. -/
theorem get?_getD_empty (annotations : Option (TextMap String)) (k : String) :
    (annotations.getD .empty).get? k = annotations.bind (·.get? k) := by
  cases annotations with
  | none => rfl
  | some m => rfl

theorem get?_rebind_ite (annotations : Option (TextMap String)) (key value k : String) :
    (rebind annotations key value).get? k =
      if key ≠ "" ∧ k = key then some value else (annotations.getD .empty).get? k := by
  by_cases hk : key = ""
  · rw [rebind, if_pos hk, if_neg fun h => h.1 hk]
  · rw [rebind, if_neg hk, TextMap.get?_insert]
    simp only [ne_eq, hk, not_false_eq_true, true_and]

theorem get?_rebind {key : String} (hk : key ≠ "") (annotations : Option (TextMap String))
    (value k : String) :
    (rebind annotations key value).get? k =
      if k = key then some value else annotations.bind (·.get? k) := by
  simp only [get?_rebind_ite, get?_getD_empty, ne_eq, hk, not_false_eq_true, true_and]

namespace EditTask

variable {t : EditTask} {r r' : NodeRecord}

/-- The revised record holds the text of the map. -/
theorem value?_revised (hk : t.key ≠ "") (m : DriverMap) :
    (t.revised r m).value? t.key = some (DriverMap.encode m) := by
  show (rebind r.annotations t.key (DriverMap.encode m)).get? t.key = _
  rw [get?_rebind hk, if_pos rfl]

/-- The revised record keeps the values of the other keys. -/
theorem value?_revised_of_ne (hk : t.key ≠ "") {k : String} (hne : k ≠ t.key) (m : DriverMap) :
    (t.revised r m).value? k = r.value? k := by
  show (rebind r.annotations t.key (DriverMap.encode m)).get? k = _
  rw [get?_rebind hk, if_neg hne]
  rfl

/-! ## Proposals -/

theorem proposal_eq_some_iff :
    t.proposal r = .ok (some r') ↔
      ∃ m, DriverMap.decode (r.value? t.key) = .ok m ∧ t.edit.run m ≠ m ∧
        r' = t.revised r (t.edit.run m) := by
  unfold proposal
  cases hd : DriverMap.decode (r.value? t.key) with
  | error e => simp
  | ok m =>
    simp only [Except.ok.injEq, Option.map_eq_some_iff, DriverEdit.apply_eq_some_iff]
    constructor
    · rintro ⟨m', ⟨hne, rfl⟩, rfl⟩
      exact ⟨m, rfl, hne, rfl⟩
    · rintro ⟨_, rfl, hne, rfl⟩
      exact ⟨_, ⟨hne, rfl⟩, rfl⟩

theorem proposal_eq_none_iff :
    t.proposal r = .ok none ↔
      ∃ m, DriverMap.decode (r.value? t.key) = .ok m ∧ t.edit.holds m = true := by
  unfold proposal
  cases hd : DriverMap.decode (r.value? t.key) with
  | error e => simp
  | ok m => simp [DriverEdit.apply_eq_none_iff]

theorem proposal_eq_error_iff {e : CorruptMap} :
    t.proposal r = .error e ↔ DriverMap.decode (r.value? t.key) = .error e := by
  unfold proposal
  cases hd : DriverMap.decode (r.value? t.key) with
  | error e' => simp
  | ok m => simp

end EditTask

end DriverRegistration
