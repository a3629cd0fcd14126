import DriverRegistration.Proofs.Node.Versions
import Mathlib.Control.Monad.Basic

/-!
# Whole runs of the nodes in memory

An action is anything that can be asked of the nodes in memory.  Whatever the actions, the nodes
only grow (`grows_run`) and keep records with the texts of their versions (`Reachable.synced`), and
between two points of a run a node is as it was exactly if no action has hit it (`undisturbed_iff`).
A record that was seen earlier can therefore be written exactly as long as its node was left alone.
-/

namespace DriverRegistration

namespace MemoryStore

/-! ## Actions -/

inductive Action where
  | insertNode (name : String) (annotations : Option (TextMap String))
  | get (name : String)
  | update (r : NodeRecord)
  | interleave (write : ForeignWrite)
  | injectConflicts (count : Nat)
  | failNext (error : StoreError)
  /-- Look at the record of a node. -/
  | inspect (name : String)
  /-- Look at the value of an annotation. -/
  | inspectValue (name key : String)
  /-- Look at the numbers of reads, updates and writes. -/
  | inspectCounts

def step : Action → MemoryStore → MemoryStore
  | .insertNode name annotations, s => s.insertNode name annotations
  | .get name, s => (s.get name).2
  | .update r, s => (s.update r).2
  | .interleave write, s => s.interleave write
  | .injectConflicts count, s => s.injectConflicts count
  | .failNext error, s => s.failNext error
  | .inspect _, s => s
  | .inspectValue _ _, s => s
  | .inspectCounts, s => s

def run : List Action → MemoryStore → MemoryStore
  | [], s => s
  | a :: rest, s => run rest (step a s)

/-- A store that some run from the store without nodes leads to. -/
def Reachable (s : MemoryStore) : Prop := ∃ acts, s = run acts empty

/-- The record that an action answers with. -/
def observed : Action → MemoryStore → Option NodeRecord
  | .get name, s => (s.get name).1.toOption
  | .update r, s => (s.update r).1.toOption
  | .inspect name, s => s.record? name
  | _, _ => none

/-- An action hits a node: it replaces it, writes it, or lets the next queued write of another land
on it, which an update does unless a queued failure comes first. -/
def Hits (name : String) : Action → MemoryStore → Prop
  | .insertNode other _, _ => other = name
  | .update r, s =>
    r.name = name ∧ ((s.failures = [] ∧ s.foreign ≠ []) ∨ ∃ r', (s.update r).1 = .ok r')
  | _, _ => False

/-- No action of a run hits a node. -/
def Undisturbed (name : String) : List Action → MemoryStore → Prop
  | [], _ => True
  | a :: rest, s => ¬ Hits name a s ∧ Undisturbed name rest (step a s)

theorem run_append (before later : List Action) (s : MemoryStore) :
    run (before ++ later) s = run later (run before s) := by
  induction before generalizing s with
  | nil => rfl
  | cons a before ih => exact ih (step a s)

/-! ## The node that an update addresses -/

theorem get?_landForeign_of_cons {s : MemoryStore} {write : ForeignWrite}
    {rest : List ForeignWrite} {name : String} {n : StoredNode} (hf : s.foreign = write :: rest)
    (hn : s.nodes.get? name = some n) :
    (s.landForeign name).nodes.get? name = some (n.changedBy write) := by
  simp only [landForeign, hf, hn, TextMap.get?_insert, if_true]

theorem get?_landForeign_of_ne {name other : String} (h : other ≠ name) (s : MemoryStore) :
    (s.landForeign name).nodes.get? other = s.nodes.get? other := by
  unfold landForeign
  cases s.foreign with
  | nil => rfl
  | cons write rest =>
    dsimp only
    cases s.nodes.get? name with
    | none => rfl
    | some n => rw [TextMap.get?_insert, if_neg h]

theorem get?_written (r : NodeRecord) (n : StoredNode) (s : MemoryStore) :
    (s.written r n).nodes.get? r.name = some (n.advanced r.annotations) := by
  simp only [written, TextMap.get?_insert, if_true]

theorem get?_written_of_ne {r : NodeRecord} {other : String} (h : other ≠ r.name) (n : StoredNode)
    (s : MemoryStore) : (s.written r n).nodes.get? other = s.nodes.get? other := by
  simp only [written, TextMap.get?_insert, if_neg h]

section Updates

variable {r : NodeRecord} {s s' : MemoryStore} {answer : Except StoreError NodeRecord}

/-- An update leaves all other nodes alone. -/
theorem Updates.get?_of_ne (h : Updates r s answer s') {other : String} (ho : other ≠ r.name) :
    s'.nodes.get? other = s.nodes.get? other := by
  have hland : (s.counted.landForeign r.name).nodes.get? other = s.nodes.get? other :=
    get?_landForeign_of_ne ho s.counted
  cases h with
  | failed hq => rfl
  | missing hq hn => exact hland
  | stale hq hn hv => exact hland
  | committed hq hn hv => rw [get?_written_of_ne ho, hland]

/-- An update makes no node. -/
theorem Updates.get?_eq_none (h : Updates r s answer s') (hn : s.nodes.get? r.name = none) :
    s'.nodes.get? r.name = none := by
  have hland : (s.landForeign r.name).nodes.get? r.name = none :=
    (get?_landForeign_eq_none_iff s r.name).2 hn
  cases h with
  | failed hq => exact hn
  | missing hq hn' => rw [nodes_landForeign_counted, hland]
  | stale hq hn' hv => rw [nodes_landForeign_counted, hland]
  | committed hq hn' hv => rw [hland] at hn'; cases hn'

/-- A queued write of another changes the node, whatever becomes of the update. -/
theorem Updates.lt_of_foreign (h : Updates r s answer s') {n : StoredNode}
    (hn : s.nodes.get? r.name = some n) (hq : s.failures = []) (hf : s.foreign ≠ []) :
    ∃ n', s'.nodes.get? r.name = some n' ∧ n.version < n'.version := by
  obtain ⟨write, rest, hf⟩ := List.exists_cons_of_ne_nil hf
  have hland : (s.landForeign r.name).nodes.get? r.name = some (n.changedBy write) :=
    get?_landForeign_of_cons hf hn
  have hlt : n.version < (n.changedBy write).version := Nat.lt_succ_self n.version
  cases h with
  | failed hq' => rw [hq] at hq'; cases hq'
  | missing hq' hn' => rw [hn] at hn'; cases hn'
  | stale hq' hn' hv => exact ⟨_, by rw [nodes_landForeign_counted, hland], hlt⟩
  | committed hq' hn' hv =>
    rw [hland] at hn'
    cases hn'
    exact ⟨_, get?_written _ _ _, Nat.lt_succ_of_lt hlt⟩

/-- An update that answers with a record has changed the node. -/
theorem Updates.lt_of_ok (h : Updates r s answer s') {n : StoredNode} {r' : NodeRecord}
    (hn : s.nodes.get? r.name = some n) (hok : answer = .ok r') :
    ∃ n', s'.nodes.get? r.name = some n' ∧ n.version < n'.version := by
  cases h with
  | failed hq => cases hok
  | missing hq hn' => cases hok
  | stale hq hn' hv => cases hok
  | committed hq hn' hv =>
    obtain ⟨n₁, hn₁, hl⟩ := grows_landForeign r.name s r.name n hn
    rw [hn₁] at hn'
    cases hn'
    exact ⟨_, get?_written _ _ _, Nat.lt_succ_of_le hl.version_le⟩

/-- Neither a queued write of another nor the update itself has changed the node. -/
theorem Updates.get?_of_not_hit (h : Updates r s answer s')
    (hf : ¬ (s.failures = [] ∧ s.foreign ≠ [])) (hok : ¬ ∃ r', answer = .ok r') :
    s'.nodes = s.nodes := by
  have hland (hq : s.failures = []) : (s.counted.landForeign r.name).nodes = s.nodes := by
    have hnil : s.foreign = [] := by
      by_contra hne
      exact hf ⟨hq, hne⟩
    rw [nodes_landForeign_counted, landForeign_of_nil hnil]
  cases h with
  | failed hq => rfl
  | missing hq hn => exact hland hq
  | stale hq hn hv => exact hland hq
  | committed hq hn hv => exact absurd ⟨_, rfl⟩ hok

/-- What an update that answers with an error leaves behind. -/
theorem Updates.of_error (h : Updates r s answer s') {e : StoreError} (herr : answer = .error e) :
    s' = (match s.failures with
      | [] => s.counted.landForeign r.name
      | _ :: rest => { s.counted with failures := rest }) := by
  cases h with
  | failed hq => rw [hq]
  | missing hq hn => rw [hq]
  | stale hq hn hv => rw [hq]
  | committed hq hn hv => cases herr

end Updates

/-! ## One action -/

theorem nodes_get (name : String) (s : MemoryStore) : (s.get name).2.nodes = s.nodes := by
  unfold get
  dsimp only
  split <;> rfl

theorem grows_step (a : Action) (s : MemoryStore) : s.Grows (step a s) := by
  cases a with
  | insertNode name annotations => exact grows_insertNode name annotations s
  | get name => exact .of_nodes_eq (nodes_get name s)
  | update r => exact (updates_update r s).grows
  | interleave write => exact .of_nodes_eq rfl
  | injectConflicts count => exact .of_nodes_eq rfl
  | failNext error => exact .of_nodes_eq rfl
  | inspect name => exact .refl s
  | inspectValue name key => exact .refl s
  | inspectCounts => exact .refl s

theorem Synced.step {s : MemoryStore} (hs : s.Synced) (a : Action) :
    (MemoryStore.step a s).Synced := by
  cases a with
  | insertNode name annotations => exact hs.insertNode name annotations
  | get name => exact hs.of_nodes_eq (nodes_get name s)
  | update r => exact hs.updates (updates_update r s)
  | interleave write => exact hs.of_nodes_eq rfl
  | injectConflicts count => exact hs.of_nodes_eq rfl
  | failNext error => exact hs.of_nodes_eq rfl
  | inspect name => exact hs
  | inspectValue name key => exact hs
  | inspectCounts => exact hs

/-- Only the insertion of a node makes one, at the first version. -/
theorem version_of_new {a : Action} {s : MemoryStore} {name : String} {n : StoredNode}
    (hnone : s.nodes.get? name = none) (hn : (step a s).nodes.get? name = some n) :
    n.version = 1 := by
  cases a with
  | insertNode other annotations =>
    simp only [step, insertNode, TextMap.get?_insert] at hn
    split at hn
    · next ho =>
      cases hn
      simp only [← ho, hnone]
    · rw [hnone] at hn; cases hn
  | get other => rw [step, nodes_get, hnone] at hn; cases hn
  | update r =>
    have hu := updates_update r s
    by_cases ho : name = r.name
    · subst ho
      rw [step, hu.get?_eq_none hnone] at hn
      cases hn
    · rw [step, hu.get?_of_ne ho, hnone] at hn
      cases hn
  | _ => exact absurd (hnone.symm.trans hn) (by simp)

theorem lt_of_hits {a : Action} {s : MemoryStore} {name : String} {n : StoredNode}
    (hn : s.nodes.get? name = some n) (h : Hits name a s) :
    ∃ n', (step a s).nodes.get? name = some n' ∧ n.version < n'.version := by
  cases a with
  | insertNode other annotations =>
    cases h
    refine ⟨⟨⟨name, annotations, some (toString (n.version + 1))⟩, n.version + 1⟩, ?_,
      Nat.lt_succ_self n.version⟩
    simp only [step, insertNode, TextMap.get?_insert, if_true, hn]
  | update r =>
    obtain ⟨rfl, ⟨hq, hf⟩ | ⟨r', hok⟩⟩ := h
    · exact (updates_update r s).lt_of_foreign hn hq hf
    · exact (updates_update r s).lt_of_ok hn hok
  | _ => exact h.elim

theorem get?_of_not_hits {a : Action} {s : MemoryStore} {name : String} (h : ¬ Hits name a s) :
    (step a s).nodes.get? name = s.nodes.get? name := by
  cases a with
  | insertNode other annotations =>
    simp only [step, insertNode, TextMap.get?_insert]
    exact if_neg fun ho => h ho.symm
  | get other => rw [step, nodes_get]
  | update r =>
    have hu := updates_update r s
    by_cases ho : name = r.name
    · obtain ⟨hf, hok⟩ := not_or.1 fun hor => h ⟨ho.symm, hor⟩
      rw [step, hu.get?_of_not_hit hf hok]
    · exact hu.get?_of_ne ho
  | _ => rfl

/-- A record that an action answers with is the node's record afterwards. -/
theorem record?_of_observed {a : Action} {s : MemoryStore} (hs : s.Synced) {r : NodeRecord}
    (h : observed a s = some r) : ∃ n, (step a s).nodes.get? r.name = some n ∧ r = n.record := by
  have hrecord {name : String} (hr : s.record? name = some r) :
      ∃ n, s.nodes.get? r.name = some n ∧ r = n.record := by
    obtain ⟨n, hn, rfl⟩ := Option.map_eq_some_iff.1 hr
    exact ⟨n, (hs name n hn).name_eq ▸ hn, rfl⟩
  cases a with
  | get name =>
    rw [step, nodes_get]
    simp only [observed, get] at h
    split at h
    · next r' hr =>
      cases h
      exact hrecord hr
    · cases h
  | update r₀ =>
    have hu := updates_update r₀ s
    rw [step]
    generalize (s.update r₀).2 = s' at hu ⊢
    rw [observed] at h
    generalize (s.update r₀).1 = answer at h hu
    cases hu with
    | @committed n _ hn hv =>
      cases h
      have hname : n.record.name = r₀.name := (hs.landForeign r₀.name r₀.name n hn).name_eq
      refine ⟨n.advanced r₀.annotations, ?_, rfl⟩
      show (written r₀ n _).nodes.get? n.record.name = _
      rw [hname, get?_written]
    | _ => cases h
  | inspect name => exact hrecord h
  | _ => cases h

/-! ## Whole runs -/

theorem grows_run (acts : List Action) (s : MemoryStore) : s.Grows (run acts s) := by
  induction acts generalizing s with
  | nil => exact .refl s
  | cons a acts ih => exact (grows_step a s).trans (ih (step a s))

theorem Synced.run {s : MemoryStore} (hs : s.Synced) (acts : List Action) :
    (MemoryStore.run acts s).Synced := by
  induction acts generalizing s with
  | nil => exact hs
  | cons a acts ih => exact ih (hs.step a)

/-- However a store was come by, its records carry their names and the texts of their versions. -/
theorem Reachable.synced {s : MemoryStore} (h : s.Reachable) : s.Synced := by
  obtain ⟨acts, rfl⟩ := h
  exact synced_empty.run acts

/-- A node is as it was exactly if no action has hit it. -/
theorem undisturbed_iff {acts : List Action} {s : MemoryStore} {name : String} {n : StoredNode}
    (hn : s.nodes.get? name = some n) :
    Undisturbed name acts s ↔ (run acts s).nodes.get? name = some n := by
  induction acts generalizing s with
  | nil => exact ⟨fun _ => hn, fun _ => trivial⟩
  | cons a acts ih =>
    by_cases hhit : Hits name a s
    · refine ⟨fun hu => absurd hhit hu.1, fun hlast => ?_⟩
      -- the version has gone up and cannot come down again
      obtain ⟨n₁, hn₁, hlt⟩ := lt_of_hits hn hhit
      obtain ⟨n₂, hn₂, hl⟩ := grows_run acts (step a s) name n₁ hn₁
      have hn₂' : (run acts (step a s)).nodes.get? name = some n := hlast
      rw [hn₂] at hn₂'
      cases hn₂'
      exact absurd hl.version_le (Nat.not_le_of_lt hlt)
    · have hn₁ : (step a s).nodes.get? name = some n := (get?_of_not_hits hhit).trans hn
      exact ⟨fun hu => (ih hn₁).1 hu.2, fun hlast => ⟨hhit, (ih hn₁).2 hlast⟩⟩

theorem one_le_version_run (acts : List Action) {s : MemoryStore}
    (h : ∀ name n, s.nodes.get? name = some n → 1 ≤ n.version) {name : String} {n : StoredNode}
    (hn : (run acts s).nodes.get? name = some n) : 1 ≤ n.version := by
  induction acts generalizing s with
  | nil => exact h name n hn
  | cons a acts ih =>
    refine ih (s := step a s) (fun other n' hn' => ?_) hn
    cases hother : s.nodes.get? other with
    | none => exact Nat.le_of_eq (version_of_new hother hn').symm
    | some n₀ =>
      obtain ⟨n₁, hn₁, hl⟩ := grows_step a s other n₀ hother
      rw [hn'] at hn₁
      cases hn₁
      exact Nat.le_trans (h other n₀ hother) hl.version_le

theorem Reachable.one_le_version {s : MemoryStore} (h : s.Reachable) {name : String}
    {n : StoredNode} (hn : s.nodes.get? name = some n) : 1 ≤ n.version := by
  obtain ⟨acts, rfl⟩ := h
  refine one_le_version_run acts (fun other n' hn' => ?_) hn
  cases hn'

/-! ## Writing a record that was seen earlier -/

section Seen

variable {s : MemoryStore} {n : StoredNode} {w : NodeRecord}

theorem update_ok_iff (hq : s.failures = []) (hf : s.foreign = []) {n' : StoredNode}
    (hn' : s.nodes.get? w.name = some n') :
    (∃ r', (s.update w).1 = .ok r') ↔ w.version = n'.record.version := by
  by_cases hv : w.version = n'.record.version
  · rw [update_current hq hf hn' hv]
    exact ⟨fun _ => hv, fun _ => ⟨_, rfl⟩⟩
  · rw [update_stale hq hf hn' hv]
    exact ⟨fun ⟨_, h⟩ => (nomatch h), fun h => absurd h hv⟩

/-- A queued write of another makes a write from an earlier version a conflict. -/
theorem update_conflict (hs : s.Synced) (hq : s.failures = []) (hf : s.foreign ≠ [])
    {n' : StoredNode} (hn' : s.nodes.get? w.name = some n') (hn : n.Synced w.name)
    (hl : n.Later n') (hw : w.version = n.record.version) :
    ∃ text, (s.update w).1 = .error (.conflict w.name text) := by
  obtain ⟨write, rest, hf⟩ := List.exists_cons_of_ne_nil hf
  have hland := get?_landForeign_of_cons hf hn'
  have hu := updates_update w s
  generalize (s.update w).1 = answer at hu
  generalize (s.update w).2 = s' at hu
  cases hu with
  | failed hq' => rw [hq] at hq'; cases hq'
  | missing _ hnone => rw [hn'] at hnone; cases hnone
  | stale _ hn₁ hv => exact ⟨_, rfl⟩
  | committed _ hn₁ hv =>
    rw [hland] at hn₁
    cases hn₁
    have hchanged : (n'.changedBy write).Synced w.name := (hs _ _ hn').advanced _
    have hversion : n.version = n'.version + 1 := hn.version_inj hchanged (hw.symm.trans hv)
    have hle : n.version ≤ n'.version := hl.version_le
    omega

end Seen

/-! ## What an update leaves behind -/

section Effect

variable {s : MemoryStore} {w : NodeRecord}

/-- What an update that answers with an error leaves behind: it takes the head of one queue, and a
write of another that it takes is applied to the node, if there is one. -/
theorem update_of_error (hs : s.Synced) {e : StoreError} (herr : (s.update w).1 = .error e) :
    (s.update w).2 =
      { s with
        updates := s.updates + 1
        failures := s.failures.tail
        foreign := if s.failures = [] then s.foreign.tail else s.foreign
        nodes := match s.failures, s.foreign, s.nodes.get? w.name with
          | [], write :: _, some n =>
            s.nodes.insert w.name
              ⟨⟨w.name, some (write (n.record.annotations.getD .empty)),
                some (toString (n.version + 1))⟩, n.version + 1⟩
          | _, _, _ => s.nodes } := by
  rw [(updates_update w s).of_error herr]
  cases hq : s.failures with
  | cons error rest => simp [counted, hq]
  | nil =>
    cases hf : s.foreign with
    | nil => simp [counted, landForeign, hq, hf]
    | cons write rest =>
      cases hn : s.nodes.get? w.name with
      | none => simp [counted, landForeign, hq, hf, hn]
      | some n =>
        simp [counted, landForeign, hq, hf, hn, StoredNode.changedBy, (hs _ _ hn).advanced_eq]

/-- What an update that answers with a record leaves behind: the node is at the next version, or at
the one after it if a write of another came first, with the annotations that were asked for. -/
theorem update_of_ok (hs : s.Synced) {r : NodeRecord} (hok : (s.update w).1 = .ok r) :
    ∃ n version, s.nodes.get? w.name = some n ∧
      version = n.version + (if s.foreign = [] then 0 else 1) ∧
      w.version = some (toString version) ∧
      r = ⟨w.name, w.annotations, some (toString (version + 1))⟩ ∧
      (s.update w).2.nodes.get? w.name = some ⟨r, version + 1⟩ ∧
      ∀ other, other ≠ w.name → (s.update w).2.nodes.get? other = s.nodes.get? other := by
  have hu := updates_update w s
  have hother : ∀ other, other ≠ w.name →
      (s.update w).2.nodes.get? other = s.nodes.get? other := fun _ => hu.get?_of_ne
  generalize (s.update w).2 = s' at hu hother
  generalize (s.update w).1 = answer at hu hok
  cases hu with
  | failed | missing | stale => cases hok
  | @committed n₁ _ hn₁ hv =>
    cases hok
    have hsync : n₁.Synced w.name := hs.landForeign w.name w.name n₁ hn₁
    obtain ⟨n, hn, hversion⟩ : ∃ n, s.nodes.get? w.name = some n ∧
        n₁.version = n.version + (if s.foreign = [] then 0 else 1) := by
      cases hf : s.foreign with
      | nil =>
        rw [landForeign_of_nil hf] at hn₁
        exact ⟨n₁, hn₁, rfl⟩
      | cons write rest =>
        cases hn : s.nodes.get? w.name with
        | none =>
          rw [(get?_landForeign_eq_none_iff s w.name).2 hn] at hn₁
          cases hn₁
        | some n =>
          rw [get?_landForeign_of_cons hf hn] at hn₁
          cases hn₁
          exact ⟨n, rfl, rfl⟩
    refine ⟨n, n₁.version, hn, hversion, hv.trans hsync.version_eq, ?_, ?_, hother⟩
    · rw [hsync.advanced_eq]
    · rw [get?_written, hsync.advanced_eq]

end Effect

/-- The record that is stored for a node carries its name and the text of its version.  A node
starts at version one and differs only at a greater version, so a record that was seen can be
written exactly until an action hits its node, and an update that fails changes no node but by the
queued write of another that it lets land. -/
theorem version_discipline {s : MemoryStore} (hs : s.Reachable) (a : Action)
    (later : List Action) :
    (∀ name n, s.nodes.get? name = some n → n.record.name = name ∧
      n.record.version = some (toString n.version) ∧ 1 ≤ n.version) ∧
    (∀ name n, s.nodes.get? name = none → (step a s).nodes.get? name = some n → n.version = 1) ∧
    (∀ name n, s.nodes.get? name = some n →
      ∃ n', (run later s).nodes.get? name = some n' ∧ n.version ≤ n'.version ∧
        (n' ≠ n → n.version < n'.version)) ∧
    (∀ r r' a', observed a s = some r → observed a' (run later (step a s)) = some r' →
      r'.name = r.name → r'.version = r.version → r' = r) ∧
    (∀ r w, observed a s = some r → w.name = r.name → w.version = r.version →
      (run later (step a s)).failures = [] →
      ((∃ r', ((run later (step a s)).update w).1 = .ok r') ↔
        Undisturbed r.name later (step a s) ∧ (run later (step a s)).foreign = []) ∧
      ((run later (step a s)).foreign ≠ [] →
        ∃ text, ((run later (step a s)).update w).1 = .error (.conflict r.name text))) ∧
    (∀ w e, (s.update w).1 = .error e →
      (s.update w).2 =
        { s with
          updates := s.updates + 1
          failures := s.failures.tail
          foreign := if s.failures = [] then s.foreign.tail else s.foreign
          nodes := match s.failures, s.foreign, s.nodes.get? w.name with
            | [], write :: _, some n =>
              s.nodes.insert w.name
                ⟨⟨w.name, some (write (n.record.annotations.getD .empty)),
                  some (toString (n.version + 1))⟩, n.version + 1⟩
            | _, _, _ => s.nodes }) ∧
    (∀ w r, (s.update w).1 = .ok r →
      ∃ n version, s.nodes.get? w.name = some n ∧
        version = n.version + (if s.foreign = [] then 0 else 1) ∧
        w.version = some (toString version) ∧
        r = ⟨w.name, w.annotations, some (toString (version + 1))⟩ ∧
        (s.update w).2.nodes.get? w.name = some ⟨r, version + 1⟩ ∧
        ∀ other, other ≠ w.name → (s.update w).2.nodes.get? other = s.nodes.get? other) := by
  have hstep : (step a s).Synced := hs.synced.step a
  have hrun : (run later (step a s)).Synced := hstep.run later
  refine ⟨fun name n hn => ?_, fun name n => version_of_new, fun name n hn => ?_,
    fun r r' a' hr hr' hname hversion => ?_, fun r w hr hname hversion hq => ?_,
    fun w e => update_of_error hs.synced, fun w r => update_of_ok hs.synced⟩
  · obtain ⟨hname, hversion⟩ := hs.synced name n hn
    exact ⟨hname, hversion, hs.one_le_version hn⟩
  · obtain ⟨n', hn', hl⟩ := grows_run later s name n hn
    exact ⟨n', hn', hl.version_le, fun hne => hl.resolve_left hne⟩
  · -- both answers are states of one node, the second of them a later one
    obtain ⟨n, hn, rfl⟩ := record?_of_observed hs.synced hr
    obtain ⟨n', hn', rfl⟩ := record?_of_observed hrun hr'
    obtain ⟨n'', hn'', hl⟩ := grows_run (later ++ [a']) (step a s) n.record.name n hn
    rw [run_append, ← hname] at hn''
    obtain rfl : n'' = n' := Option.some.inj (hn''.symm.trans hn')
    rw [hl.eq_of_text_eq (hstep _ _ hn) (hrun.step a' _ _ hn') hversion.symm]
  · obtain ⟨n, hn, rfl⟩ := record?_of_observed hs.synced hr
    obtain ⟨n', hn', hl⟩ := grows_run later (step a s) n.record.name n hn
    have hsync : n.Synced w.name := hname ▸ hstep _ _ hn
    rw [← hname] at hn'
    have hconflict := fun hf => update_conflict hrun hq hf hn' hsync hl hversion
    refine ⟨?_, hname ▸ hconflict⟩
    rw [undisturbed_iff hn, ← hname]
    by_cases hf : (run later (step a s)).foreign = []
    · rw [update_ok_iff hq hf hn', hn', hversion]
      refine ⟨fun hv => ⟨?_, hf⟩, fun h => ?_⟩
      · rw [hl.eq_of_text_eq hsync (hrun _ _ hn') hv]
      · rw [Option.some.inj h.1]
    · obtain ⟨text, hconflict⟩ := hconflict hf
      rw [hconflict]
      exact ⟨fun ⟨_, h⟩ => (nomatch h), fun h => absurd h.2 hf⟩

/-- A store with one node, which was just made. -/
def oneNode : MemoryStore := empty.insertNode "node-1" none

/-- The record of a node that was just made. -/
def newRecord : NodeRecord := ⟨"node-1", none, some "1"⟩

/-- Another writer that leaves a note. -/
def noted : ForeignWrite := fun annotations => annotations.insert "note" "seen"

/-- A new node is read.  The record can be written, but no longer when the node was replaced; once a
write of another is queued it is refused, and the node holds what the other has written. -/
theorem version_discipline_of_new_node :
    oneNode.Reachable ∧ (oneNode.interleave noted).Reachable ∧
      (∃ r, ((step (.get "node-1") oneNode).update newRecord).1 = .ok r) ∧
      (¬ ∃ r, ((run [.insertNode "node-1" none] (step (.get "node-1") oneNode)).update
        newRecord).1 = .ok r) ∧
      (∃ text, ((run [.interleave noted] (step (.get "node-1") oneNode)).update
        newRecord).1 = .error (.conflict "node-1" text)) ∧
      ((oneNode.interleave noted).update newRecord).2.record? "node-1" =
        some ⟨"node-1", some (TextMap.empty.insert "note" "seen"), some "2"⟩ := by
  have hone : oneNode.Reachable := ⟨[.insertNode "node-1" none], rfl⟩
  have hnoted : (oneNode.interleave noted).Reachable :=
    ⟨[.insertNode "node-1" none, .interleave noted], rfl⟩
  have hread : observed (.get "node-1") oneNode = some newRecord := by decide +kernel
  obtain ⟨-, -, -, -, halone, -⟩ := version_discipline hone (.get "node-1") []
  obtain ⟨-, -, -, -, hreplaced, -⟩ :=
    version_discipline hone (.get "node-1") [.insertNode "node-1" none]
  obtain ⟨-, -, -, -, hqueued, -⟩ := version_discipline hone (.get "node-1") [.interleave noted]
  obtain ⟨-, -, -, -, -, herror, -⟩ := version_discipline hnoted (.get "node-1") []
  obtain ⟨hsucceeds, -⟩ := halone newRecord newRecord hread rfl rfl rfl
  obtain ⟨hfails, -⟩ := hreplaced newRecord newRecord hread rfl rfl rfl
  obtain ⟨-, hconflict⟩ := hqueued newRecord newRecord hread rfl rfl rfl
  refine ⟨hone, hnoted, hsucceeds.2 ⟨trivial, rfl⟩, fun h => (hfails.1 h).1.1 rfl,
    hconflict (List.cons_ne_nil noted []), ?_⟩
  rw [herror newRecord _ rfl]
  decide +kernel

end MemoryStore

end DriverRegistration
