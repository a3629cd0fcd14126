import DriverRegistration.Node.MemoryStore

/-!
# Versions of the nodes in memory

The record that is stored for a node carries the node's name and the text of its version
(`MemoryStore.Synced`).  Nothing in the store's layout says so: whatever changes a node writes the
text by hand, so this is an invariant of the operations.

A node only ever changes together with its version, and its version never falls: whatever changes a
node leads to a later state of it (`StoredNode.Later`, `MemoryStore.Grows`).  Two states of a node
with the same version are therefore the same state, and a version never comes back with other
contents.

`Updates` says what an update answers and what it leaves behind, one case for each of its ends.
-/

namespace DriverRegistration

theorem toString_nat_inj {m n : Nat} (h : toString m = toString n) : m = n := by
  have hdigits : Nat.toDigits 10 m = Nat.toDigits 10 n := by
    rw [← Nat.toList_repr, ← Nat.toList_repr]
    exact congrArg String.toList h
  have hvalue := congrArg (fun ds => Nat.ofDigitChars 10 ds 0) hdigits
  simpa only [Nat.ofDigitChars_ten_toDigits] using hvalue

namespace StoredNode

/-! ## The record of a stored node -/

/-- The record that is stored for a node carries the node's name and the text of its version. -/
structure Synced (name : String) (n : StoredNode) : Prop where
  name_eq : n.record.name = name
  version_eq : n.record.version = some (toString n.version)

namespace Synced

variable {name name' : String} {n n' : StoredNode}

protected theorem advanced (h : n.Synced name) (annotations : Option (TextMap String)) :
    (n.advanced annotations).Synced name :=
  ⟨h.name_eq, rfl⟩

/-- What the texts say about the versions that they are compared for. -/
theorem version_inj (h : n.Synced name) (h' : n'.Synced name')
    (hv : n.record.version = n'.record.version) : n.version = n'.version := by
  rw [h.version_eq, h'.version_eq, Option.some.injEq] at hv
  exact toString_nat_inj hv

theorem advanced_eq (h : n.Synced name) (annotations : Option (TextMap String)) :
    n.advanced annotations =
      ⟨⟨name, annotations, some (toString (n.version + 1))⟩, n.version + 1⟩ := by
  obtain ⟨⟨_, _, _⟩, _⟩ := n
  cases h.name_eq
  rfl

end Synced

/-! ## Later states of a node -/

/-- A state of a node that may come after another one: the same, or one of a greater version. -/
def Later (n n' : StoredNode) : Prop := n' = n ∨ n.version < n'.version

theorem Later.refl (n : StoredNode) : n.Later n := Or.inl rfl

theorem Later.trans {n n' n'' : StoredNode} (h : n.Later n') (h' : n'.Later n'') : n.Later n'' := by
  rcases h with rfl | h
  · exact h'
  · rcases h' with rfl | h'
    · exact Or.inr h
    · exact Or.inr (Nat.lt_trans h h')

theorem Later.version_le {n n' : StoredNode} (h : n.Later n') : n.version ≤ n'.version := by
  rcases h with rfl | h
  · exact Nat.le_refl _
  · exact Nat.le_of_lt h

/-- A version does not come back with other contents. -/
theorem Later.eq_of_version_eq {n n' : StoredNode} (h : n.Later n') (hv : n'.version = n.version) :
    n' = n := by
  rcases h with rfl | h
  · rfl
  · omega

/-- Nor does the text of a version. -/
theorem Later.eq_of_text_eq {n n' : StoredNode} {name name' : String} (h : n.Later n')
    (hn : n.Synced name) (hn' : n'.Synced name') (ht : n.record.version = n'.record.version) :
    n' = n :=
  h.eq_of_version_eq (hn.version_inj hn' ht).symm

theorem later_advanced (annotations : Option (TextMap String)) (n : StoredNode) :
    n.Later (n.advanced annotations) :=
  Or.inr (Nat.lt_succ_self _)

end StoredNode

namespace MemoryStore

/-! ## What an update does -/

/-- The store after an update was asked for. -/
def counted (s : MemoryStore) : MemoryStore := { s with updates := s.updates + 1 }

/-- The store after a record was written over a node. -/
def written (r : NodeRecord) (n : StoredNode) (s : MemoryStore) : MemoryStore :=
  { s with nodes := s.nodes.insert r.name (n.advanced r.annotations), writes := s.writes + 1 }

/-- The answer to an update and the store that it leaves, one case for each end of an update. -/
inductive Updates (r : NodeRecord) (s : MemoryStore) :
    Except StoreError NodeRecord → MemoryStore → Prop
  /-- A queued failure comes first. -/
  | failed {e : StoreError} {rest : List StoreError} (hq : s.failures = e :: rest) :
      Updates r s (.error e) { s.counted with failures := rest }
  | missing (hq : s.failures = []) (hn : s.nodes.get? r.name = none) :
      Updates r s (.error (.notFound r.name)) (s.counted.landForeign r.name)
  | stale {n : StoredNode} (hq : s.failures = [])
      (hn : (s.landForeign r.name).nodes.get? r.name = some n)
      (hv : r.version ≠ n.record.version) :
      Updates r s (.error (staleVersion r n)) (s.counted.landForeign r.name)
  | committed {n : StoredNode} (hq : s.failures = [])
      (hn : (s.landForeign r.name).nodes.get? r.name = some n)
      (hv : r.version = n.record.version) :
      Updates r s (.ok (n.advanced r.annotations).record)
        ((s.counted.landForeign r.name).written r n)

theorem landForeign_of_nil {s : MemoryStore} (h : s.foreign = []) (name : String) :
    s.landForeign name = s := by
  rw [landForeign, h]

theorem nodes_landForeign_counted (s : MemoryStore) (name : String) :
    (s.counted.landForeign name).nodes = (s.landForeign name).nodes := by
  unfold landForeign counted
  cases s.foreign with
  | nil => rfl
  | cons write rest =>
    dsimp only
    cases s.nodes.get? name with
    | none => rfl
    | some n => rfl

theorem get?_landForeign_eq_none_iff (s : MemoryStore) (name : String) :
    (s.landForeign name).nodes.get? name = none ↔ s.nodes.get? name = none := by
  unfold landForeign
  cases s.foreign with
  | nil => rfl
  | cons write rest =>
    dsimp only
    cases hn : s.nodes.get? name with
    | none => simp [hn]
    | some n => simp [TextMap.get?_insert]

theorem updates_update (r : NodeRecord) (s : MemoryStore) :
    Updates r s (update r s).1 (update r s).2 := by
  unfold update
  dsimp only
  split
  · next e rest hq => exact .failed hq
  · next hq =>
    unfold commit
    split
    · next hn =>
      refine .missing hq ((get?_landForeign_eq_none_iff s r.name).1 ?_)
      rw [← nodes_landForeign_counted]
      exact hn
    · next n hn =>
      replace hn : (s.landForeign r.name).nodes.get? r.name = some n := by
        rw [← nodes_landForeign_counted]
        exact hn
      split
      · next hv => exact .stale hq hn hv
      · next hv => exact .committed hq hn (Decidable.not_not.1 hv)

section Unqueued

variable {r : NodeRecord} {s : MemoryStore} {n : StoredNode}

/-- With nothing queued, a record is written at the version of the node. -/
theorem update_current (hq : s.failures = []) (hf : s.foreign = [])
    (hn : s.nodes.get? r.name = some n) (hv : r.version = n.record.version) :
    s.update r = (.ok (n.advanced r.annotations).record, s.counted.written r n) := by
  simp only [update, hq, landForeign, hf, commit, hn, hv, ne_eq, not_true_eq_false, if_false,
    counted, written]

/-- With nothing queued, a record of any other version is refused. -/
theorem update_stale (hq : s.failures = []) (hf : s.foreign = [])
    (hn : s.nodes.get? r.name = some n) (hv : r.version ≠ n.record.version) :
    s.update r = (.error (staleVersion r n), s.counted) := by
  simp only [update, hq, landForeign, hf, commit, hn, hv, ne_eq, not_false_eq_true, if_true,
    counted]

end Unqueued

/-! ## Nodes grow -/

/-- Every node is still there, in a later state. -/
def Grows (s s' : MemoryStore) : Prop :=
  ∀ name n, s.nodes.get? name = some n → ∃ n', s'.nodes.get? name = some n' ∧ n.Later n'

theorem Grows.of_nodes_eq {s s' : MemoryStore} (h : s'.nodes = s.nodes) : s.Grows s' := by
  intro name n hn
  exact ⟨n, by rw [h, hn], .refl n⟩

theorem Grows.refl (s : MemoryStore) : s.Grows s := .of_nodes_eq rfl

theorem Grows.trans {s s' s'' : MemoryStore} (h : s.Grows s') (h' : s'.Grows s'') :
    s.Grows s'' := by
  intro name n hn
  obtain ⟨n', hn', hl⟩ := h name n hn
  obtain ⟨n'', hn'', hl'⟩ := h' name n' hn'
  exact ⟨n'', hn'', hl.trans hl'⟩

/-- A store whose nodes differ in one node only, which is new or in a later state. -/
theorem Grows.of_insert {s s' : MemoryStore} {name : String} {n' : StoredNode}
    (h : s'.nodes = s.nodes.insert name n') (hl : ∀ n, s.nodes.get? name = some n → n.Later n') :
    s.Grows s' := by
  intro other n hn
  rw [h, TextMap.get?_insert]
  split
  · next ho => exact ⟨n', rfl, hl n (ho ▸ hn)⟩
  · exact ⟨n, hn, .refl n⟩

theorem grows_insertNode (name : String) (annotations : Option (TextMap String))
    (s : MemoryStore) : s.Grows (s.insertNode name annotations) := by
  refine .of_insert rfl fun n hn => Or.inr ?_
  simp only [hn]
  exact Nat.lt_succ_self _

theorem grows_landForeign (name : String) (s : MemoryStore) : s.Grows (s.landForeign name) := by
  unfold landForeign
  cases s.foreign with
  | nil => exact .refl s
  | cons write rest =>
    dsimp only
    cases hn : s.nodes.get? name with
    | none => exact .of_nodes_eq rfl
    | some n =>
      refine .of_insert rfl fun n' hn' => ?_
      rw [hn] at hn'
      cases hn'
      exact StoredNode.later_advanced _ n

theorem grows_written {r : NodeRecord} {s : MemoryStore} {n : StoredNode}
    (hn : s.nodes.get? r.name = some n) : s.Grows (s.written r n) := by
  refine .of_insert rfl fun n' hn' => ?_
  rw [hn] at hn'
  cases hn'
  exact StoredNode.later_advanced _ n

theorem Updates.grows {r : NodeRecord} {s s' : MemoryStore} {answer : Except StoreError NodeRecord}
    (h : Updates r s answer s') : s.Grows s' := by
  have hland : s.Grows (s.counted.landForeign r.name) :=
    (Grows.of_nodes_eq rfl).trans (grows_landForeign r.name s.counted)
  cases h with
  | failed hq => exact .of_nodes_eq rfl
  | missing hq hn => exact hland
  | stale hq hn hv => exact hland
  | committed hq hn hv =>
    rw [← nodes_landForeign_counted] at hn
    exact hland.trans (grows_written hn)

/-! ## Records and versions stay together -/

/-- The records of all nodes carry their names and the texts of their versions, as they do in every
store that some run leads to (`Reachable.synced`). -/
def Synced (s : MemoryStore) : Prop :=
  ∀ name n, s.nodes.get? name = some n → n.Synced name

theorem synced_empty : empty.Synced :=
  fun _ _ hn => nomatch hn

namespace Synced

variable {s s' : MemoryStore}

theorem of_nodes_eq (hs : s.Synced) (h : s'.nodes = s.nodes) : s'.Synced := by
  intro name n hn
  rw [h] at hn
  exact hs name n hn

theorem of_insert {name : String} {n : StoredNode} (hs : s.Synced)
    (h : s'.nodes = s.nodes.insert name n) (hn : n.Synced name) : s'.Synced := by
  intro other n' hn'
  rw [h, TextMap.get?_insert] at hn'
  split at hn'
  · next ho =>
    cases hn'
    exact ho ▸ hn
  · exact hs other n' hn'

protected theorem insertNode (hs : s.Synced) (name : String)
    (annotations : Option (TextMap String)) : (s.insertNode name annotations).Synced :=
  hs.of_insert rfl ⟨rfl, rfl⟩

protected theorem landForeign (hs : s.Synced) (name : String) : (s.landForeign name).Synced := by
  unfold landForeign
  cases s.foreign with
  | nil => exact hs
  | cons write rest =>
    dsimp only
    cases hn : s.nodes.get? name with
    | none => exact hs.of_nodes_eq rfl
    | some n => exact hs.of_insert rfl ((hs name n hn).advanced _)

protected theorem written {r : NodeRecord} {n : StoredNode} (hs : s.Synced)
    (hn : s.nodes.get? r.name = some n) : (s.written r n).Synced :=
  hs.of_insert rfl ((hs r.name n hn).advanced _)

protected theorem updates {r : NodeRecord} {answer : Except StoreError NodeRecord} (hs : s.Synced)
    (h : Updates r s answer s') : s'.Synced := by
  have hcounted : s.counted.Synced := hs.of_nodes_eq rfl
  have hland : (s.counted.landForeign r.name).Synced := hcounted.landForeign r.name
  cases h with
  | failed hq => exact hs.of_nodes_eq rfl
  | missing hq hn => exact hland
  | stale hq hn hv => exact hland
  | committed hq hn hv =>
    rw [← nodes_landForeign_counted] at hn
    exact hland.written hn

end Synced

end MemoryStore

end DriverRegistration
