import DriverRegistration.Proofs.Cluster.Server
import DriverRegistration.Proofs.Reconcile.Turn
import DriverRegistration.Reconcile.Run
import Mathlib.Control.Monad.Basic

/-!
# Edits in memory and through the cluster's interface

The same edit is made on a node in memory and on a node behind a lawful server, while other writers
change both nodes in the same way between any two questions.  The two edits go the same way,
although memory replaces all annotations by those of the record and the server only merges them in.

The argument is a simulation.  The states correspond when the nodes have the same annotations
(`Alike`); their versions have nothing to do with each other.  What an edit proposes was made from
the node as it was read, so a write finds the node of that read in both stores, where it succeeds,
or in neither of them, where it loses (`overtaken_landAll`).
-/

namespace DriverRegistration

open Cluster (ApiServer Addressable)
open Cluster.NodeObject (IsNode record)

variable {σ : Type}

/-! ## Other writers between the questions -/

/-- What other writers do before each of the next questions. -/
abbrev Schedule := List (List ForeignWrite)

/-- Let other writers change the node one after another. -/
def landAll (foreign : ForeignWrite → σ → σ) (writes : List ForeignWrite) (s : σ) : σ :=
  writes.foldl (fun s write => foreign write s) s

/-- A store with other writers who keep to a schedule. -/
def NodeStore.contended (store : NodeStore σ) (foreign : ForeignWrite → σ → σ) :
    NodeStore (σ × Schedule) where
  get name s :=
    let (answer, s') := store.get name (landAll foreign (s.2.headD []) s.1)
    (answer, (s', s.2.tail))
  update r s :=
    let (answer, s') := store.update r (landAll foreign (s.2.headD []) s.1)
    (answer, (s', s.2.tail))

/-- A server, with other writers of its node. -/
def Cluster.ApiServer.contended (server : ApiServer σ) : NodeStore (σ × Schedule) :=
  server.store.contended server.foreign

namespace MemoryStore

/-- Let another writer change the annotations of a node. -/
def rewrite (name : String) (write : ForeignWrite) (s : MemoryStore) : MemoryStore :=
  match s.record? name with
  | none => s
  | some r => s.insertNode name (some (write (r.annotations.getD .empty)))

/-- Memory, with other writers of a node. -/
def contended (name : String) : NodeStore (MemoryStore × Schedule) := store.contended (rewrite name)

/-- The annotations of a node, none where it has no map of them. -/
def annotations? (s : MemoryStore) (name : String) : Option (TextMap String) :=
  (s.record? name).map fun r => r.annotations.getD .empty

variable {name : String} {s : MemoryStore}

theorem rewrite_of_none (hn : s.nodes.get? name = none) (write : ForeignWrite) :
    s.rewrite name write = s := by
  rw [rewrite, record?, hn]
  rfl

theorem rewrite_of_some {n : StoredNode} (hn : s.nodes.get? name = some n) (hsync : n.Synced name)
    (write : ForeignWrite) :
    s.rewrite name write = { s with nodes := s.nodes.insert name (n.changedBy write) } := by
  simp only [rewrite, record?_of_get? hn, insertNode, hn, StoredNode.changedBy, hsync.advanced_eq]

theorem annotations?_eq_none_iff : s.annotations? name = none ↔ s.nodes.get? name = none := by
  simp only [annotations?, record?, Option.map_eq_none_iff]

theorem annotations?_of_get? {n : StoredNode} (hn : s.nodes.get? name = some n) :
    s.annotations? name = some (n.record.annotations.getD .empty) := by
  rw [annotations?, record?_of_get? hn]
  rfl

end MemoryStore

/-! ## Corresponding states -/

/-- A store in memory, with nothing queued, and a server hold a node with the same annotations, or
both none; the record in memory carries its name and the text of its version, and the version that
the node has at the server is among those that it has had. -/
structure Alike (server : ApiServer σ) (name : String) (m : MemoryStore) (s : σ) : Prop where
  synced : ∀ n, m.nodes.get? name = some n → n.Synced name
  failures : m.failures = []
  foreign : m.foreign = []
  annotations : m.annotations? name = server.annotations? s
  node : ∀ v, server.node? s = some v →
    IsNode name v ∧ ∀ token, (record v).version = some token → server.given s token

/-- A node of memory and a node of a server that have the same annotations. -/
structure Twins (server : ApiServer σ) (name : String) (n : StoredNode) (v : Json.Value)
    (token : String) (m : MemoryStore) (s : σ) : Prop where
  stored : m.nodes.get? name = some n
  synced : n.Synced name
  served : server.node? s = some v
  isNode : IsNode name v
  version : (record v).version = some token
  given : server.given s token
  annotations : n.record.annotations.getD .empty = (record v).annotations.getD .empty

section Alike

variable {server : ApiServer σ} {name : String} {m : MemoryStore} {s : σ} {n : StoredNode}
  {v : Json.Value} {token : String}

theorem Alike.cases (h : Alike server name m s) :
    (m.nodes.get? name = none ∧ server.node? s = none) ∨
      ∃ n v token, Twins server name n v token m s := by
  have hsame := h.annotations
  cases hn : m.nodes.get? name with
  | none =>
    rw [MemoryStore.annotations?_eq_none_iff.2 hn] at hsame
    exact .inl ⟨rfl, Option.map_eq_none_iff.1 hsame.symm⟩
  | some n =>
    rw [MemoryStore.annotations?_of_get? hn] at hsame
    obtain ⟨v, hv, heq⟩ := Option.map_eq_some_iff.1 hsame.symm
    obtain ⟨hnode, hgiven⟩ := h.node v hv
    obtain ⟨token, htoken⟩ := hnode.record_version
    exact .inr ⟨n, v, token, hn, h.synced n hn, hv, hnode, htoken, hgiven token htoken, heq.symm⟩

theorem Twins.alike (h : Twins server name n v token m s) (hfailures : m.failures = [])
    (hforeign : m.foreign = []) : Alike server name m s where
  synced := by
    intro n' hn'
    rw [h.stored] at hn'
    cases hn'
    exact h.synced
  failures := hfailures
  foreign := hforeign
  annotations := by
    rw [MemoryStore.annotations?_of_get? h.stored, ApiServer.annotations?, h.served, h.annotations]
    rfl
  node := by
    intro v' hv'
    rw [h.served] at hv'
    cases hv'
    refine ⟨h.isNode, fun token' htoken' => ?_⟩
    rw [h.version] at htoken'
    cases htoken'
    exact h.given

theorem alike_of_none (hfailures : m.failures = []) (hforeign : m.foreign = [])
    (hstored : m.nodes.get? name = none) (hserved : server.node? s = none) :
    Alike server name m s where
  synced := by
    intro n hn
    rw [hstored] at hn
    cases hn
  failures := hfailures
  foreign := hforeign
  annotations := by
    rw [MemoryStore.annotations?_eq_none_iff.2 hstored, ApiServer.annotations?, hserved]
    rfl
  node := by
    intro v hv
    rw [hserved] at hv
    cases hv

/-! ## Writes of others -/

/-- After a change of the annotations by another writer, both nodes are at later versions. -/
theorem Twins.foreign (h : Twins server name n v token m s) (hserver : server.Lawful name)
    (write : ForeignWrite) :
    ∃ v' token', Twins server name (n.changedBy write) v' token' (m.rewrite name write)
      (server.foreign write s) ∧ ¬ server.given s token' := by
  obtain ⟨v', token', hserved, hnode, hsame, hversion, hfresh, hgiven⟩ :=
    hserver.foreign_present write s v h.served h.isNode
  refine ⟨v', token', ⟨?_, h.synced.advanced _, hserved, hnode, hversion, hgiven, ?_⟩, hfresh⟩
  · rw [MemoryStore.rewrite_of_some h.stored h.synced, TextMap.get?_insert, if_pos rfl]
  · rw [hsame, ← h.annotations]
    rfl

theorem Alike.rewrite (h : Alike server name m s) (hserver : server.Lawful name)
    (write : ForeignWrite) :
    Alike server name (m.rewrite name write) (server.foreign write s) := by
  rcases h.cases with ⟨hstored, hserved⟩ | ⟨n, v, token, htwins⟩
  · rw [MemoryStore.rewrite_of_none hstored]
    exact alike_of_none h.failures h.foreign hstored (hserver.foreign_missing write s hserved)
  · obtain ⟨v', token', htwins', -⟩ := htwins.foreign hserver write
    refine htwins'.alike ?_ ?_
    · rw [MemoryStore.rewrite_of_some htwins.stored htwins.synced]
      exact h.failures
    · rw [MemoryStore.rewrite_of_some htwins.stored htwins.synced]
      exact h.foreign

theorem Alike.landAll (h : Alike server name m s) (hserver : server.Lawful name)
    (writes : List ForeignWrite) :
    Alike server name (landAll (MemoryStore.rewrite name) writes m)
      (landAll server.foreign writes s) := by
  induction writes generalizing m s with
  | nil => exact h
  | cons write writes ih => exact ih (h.rewrite hserver write)

/-- Both nodes have been changed since they were read, so neither is at the version of that read. -/
def Overtaken (server : ApiServer σ) (name : String) (version : Nat) (token : String)
    (m : MemoryStore) (s : σ) : Prop :=
  ∃ n v token', Twins server name n v token' m s ∧ version < n.version ∧ token' ≠ token

/-- Writes of others overtake whatever was read before them. -/
theorem overtaken_landAll (hserver : server.Lawful name) {version : Nat} {token₀ : String}
    (write : ForeignWrite) (writes : List ForeignWrite) (htwins : Twins server name n v token m s)
    (hversion : version ≤ n.version) (hgiven : server.given s token₀) :
    Overtaken server name version token₀ (landAll (MemoryStore.rewrite name) (write :: writes) m)
      (landAll server.foreign (write :: writes) s) := by
  induction writes generalizing m s n v token write with
  | nil =>
    obtain ⟨v', token', htwins', hfresh⟩ := htwins.foreign hserver write
    -- a version that was never given before is not the one that was read
    have hne : token' ≠ token₀ := fun heq => hfresh (heq ▸ hgiven)
    exact ⟨_, v', token', htwins', Nat.lt_succ_of_le hversion, hne⟩
  | cons next writes ih =>
    obtain ⟨v', token', htwins', -⟩ := htwins.foreign hserver write
    exact ih next htwins' (Nat.le_succ_of_le hversion)
      (hserver.given_foreign write s token₀ hgiven)

end Alike

/-! ## One attempt -/

/-- A record that was written is the node's afterwards, with the annotations that were given. -/
theorem MemoryStore.record?_of_update {s : MemoryStore} {r r' : NodeRecord}
    (h : (s.update r).1 = .ok r') :
    (s.update r).2.record? r.name = some r' ∧ r'.annotations = r.annotations := by
  have hu := updates_update r s
  generalize (s.update r).1 = answer at h hu
  generalize (s.update r).2 = s' at hu ⊢
  cases hu with
  | committed hq hn hv =>
    cases h
    refine ⟨record?_of_get? ?_, rfl⟩
    rw [written, TextMap.get?_insert, if_pos rfl]
  | _ => cases h

namespace EditTask

variable {t : EditTask} {attempt : Nat}

theorem rebind_congr {annotations annotations' : Option (TextMap String)}
    (h : annotations.getD .empty = annotations'.getD .empty) (key value : String) :
    rebind annotations key value = rebind annotations' key value := by
  rw [rebind, rebind, h]

/-- From two records with the same annotations, an edit proposes the same annotations. -/
theorem proposal_congr {r r' : NodeRecord}
    (h : r.annotations.getD .empty = r'.annotations.getD .empty) :
    t.proposal r' = (t.proposal r).map
      (Option.map fun w => { w with name := r'.name, version := r'.version }) := by
  have hvalue : r'.value? t.key = r.value? t.key := by
    rw [NodeRecord.value?, NodeRecord.value?, ← get?_getD_empty, ← get?_getD_empty, h]
  unfold proposal
  rw [hvalue]
  cases DriverMap.decode (r.value? t.key) with
  | error e => rfl
  | ok m =>
    refine congrArg Except.ok ?_
    rw [Option.map_map]
    refine congrFun (congrArg Option.map (funext fun m' => ?_)) _
    simp only [revised, Function.comp_apply, rebind_congr h]

/-- After the reads of two such records, an edit ends in the same way or writes both. -/
theorem afterRead_congr {r r' : NodeRecord}
    (h : r.annotations.getD .empty = r'.annotations.getD .empty) (attempt : Nat) :
    (∃ result, (t.afterRead attempt (.ok r)).1 = .finished result ∧
        (t.afterRead attempt (.ok r')).1 = .finished result) ∨
      ∃ w w', t.proposal r = .ok (some w) ∧ t.proposal r' = .ok (some w') ∧
        w'.annotations = w.annotations ∧
        (t.afterRead attempt (.ok r)).1 = .writing attempt w ∧
        (t.afterRead attempt (.ok r')).1 = .writing attempt w' := by
  have hcongr := proposal_congr (t := t) h
  simp only [afterRead, hcongr]
  cases hp : t.proposal r with
  | error e => exact .inl ⟨_, rfl, rfl⟩
  | ok proposed =>
    cases proposed with
    | none => exact .inl ⟨_, rfl, rfl⟩
    | some w => exact .inr ⟨w, _, rfl, rfl, rfl, rfl, rfl⟩

theorem afterWrite_conflict (attempt : Nat) (node node' text text' : String) :
    (t.afterWrite attempt (.error (.conflict node text))).1 =
      (t.afterWrite attempt (.error (.conflict node' text'))).1 := by
  simp only [afterWrite, StoreError.isConflict, afterConflict, if_true]
  split
  · rfl
  · split
    · rfl
    · rfl

theorem cycle_of_finished (store : NodeStore σ) {s : σ} {result : EditResult}
    (h : (t.afterRead attempt (store.get t.node s).1).1 = .finished result) :
    (t.cycle store attempt s).1.phase = .finished result ∧
      (t.cycle store attempt s).2 = (store.get t.node s).2 := by
  simp only [cycle, advance, h, and_self]

theorem cycle_of_writing (store : NodeStore σ) {s : σ} {w : NodeRecord}
    (h : (t.afterRead attempt (store.get t.node s).1).1 = .writing attempt w) :
    (t.cycle store attempt s).1.phase =
        (t.afterWrite attempt (store.update w (store.get t.node s).2).1).1 ∧
      (t.cycle store attempt s).2 = (store.update w (store.get t.node s).2).2 := by
  simp only [cycle, advance, h, Progress.append, and_self]

end EditTask

section Simulation

variable {server : ApiServer σ} {t : EditTask}

/-- Two edits, one in memory and one through a server, have come to the same point: the same is due
next, their nodes correspond, and the same is left of the schedule. -/
def Matches (server : ApiServer σ) (name : String)
    (own : EditTask.Progress × (MemoryStore × Schedule))
    (served : EditTask.Progress × (σ × Schedule)) : Prop :=
  own.1.phase = served.1.phase ∧ Alike server name own.2.1 served.2.1 ∧ own.2.2 = served.2.2

section Write

variable {m : MemoryStore} {s : σ} {n : StoredNode} {v : Json.Value} {token : String}
  {w w' : NodeRecord}

/-- What was proposed for two nodes is written to both as long as they are as they were read. -/
theorem update_twins (hserver : server.Lawful t.node) (haddr : Addressable t.node)
    (halike : Alike server t.node m s) (htwins : Twins server t.node n v token m s)
    (hw : t.proposal n.record = .ok (some w)) (hw' : t.proposal (record v) = .ok (some w'))
    (hsame : w'.annotations = w.annotations) :
    (∃ r, (m.update w).1 = .ok r) ∧
      (∃ r, (server.store.update w' s).1 = .ok r) ∧
      Alike server t.node (m.update w).2 (server.store.update w' s).2 := by
  obtain ⟨hname, hversion, -⟩ := EditTask.keeps_proposal hw
  rw [htwins.synced.name_eq] at hname
  obtain ⟨hname', hversion', μ, hμ, hkept⟩ := EditTask.keeps_proposal hw'
  obtain ⟨r', v', token', hanswer, hserved, hnode, hannotations, htoken', hgiven'⟩ :=
    ApiServer.update_current hserver haddr htwins.served htwins.isNode htwins.version
      (hname'.trans htwins.isNode.record_name) hμ hkept (hversion'.trans htwins.version)
  have hstored : m.nodes.get? w.name = some n := by rw [hname]; exact htwins.stored
  rw [MemoryStore.update_current halike.failures halike.foreign hstored hversion, hanswer]
  have htwins' : Twins server t.node (n.advanced w.annotations) v' token'
      (m.counted.written w n) (server.store.update w' s).2 := by
    refine ⟨?_, htwins.synced.advanced _, hserved, hnode, htoken', hgiven', ?_⟩
    · rw [MemoryStore.written, hname]
      exact (TextMap.get?_insert _ _ _ _).trans (if_pos rfl)
    · show w.annotations.getD .empty = _
      rw [hannotations, ← hsame, hμ]
  exact ⟨⟨_, rfl⟩, ⟨_, rfl⟩, htwins'.alike halike.failures halike.foreign⟩

/-- A write from a read that was overtaken loses in both stores. -/
theorem update_overtaken (hserver : server.Lawful t.node) (haddr : Addressable t.node)
    (halike : Alike server t.node m s) (hover : Overtaken server t.node n.version token m s)
    (hsync : n.Synced t.node) (hname : w.name = t.node) (hversion : w.version = n.record.version)
    (hname' : w'.name = t.node) (hversion' : w'.version = some token) :
    (∃ text, (m.update w).1 = .error (.conflict t.node text)) ∧
      (∃ text, (server.store.update w' s).1 =
        .error (.conflict t.node text)) ∧
      Alike server t.node (m.update w).2 (server.store.update w' s).2 := by
  obtain ⟨n', v', token', htwins, hlt, hne⟩ := hover
  obtain ⟨hanswer, hserved⟩ :=
    ApiServer.update_stale hserver haddr htwins.served htwins.version hname' hversion' hne.symm
  have hstored : m.nodes.get? w.name = some n' := by rw [hname]; exact htwins.stored
  have hstale : w.version ≠ n'.record.version := by
    rw [hversion]
    intro heq
    have hv : n.version = n'.version := hsync.version_inj htwins.synced heq
    omega
  rw [MemoryStore.update_stale halike.failures halike.foreign hstored hstale]
  have htwins' : Twins server t.node n' v' token' m.counted
      (server.store.update w' s).2 :=
    ⟨htwins.stored, htwins.synced, hserved, htwins.isNode, htwins.version,
      ApiServer.given_update hserver haddr hname' htwins.given, htwins.annotations⟩
  obtain ⟨text, htext⟩ : ∃ text, MemoryStore.staleVersion w n' = .conflict t.node text := by
    rw [MemoryStore.staleVersion, hname]
    exact ⟨_, rfl⟩
  exact ⟨⟨text, congrArg Except.error htext⟩, hanswer,
    htwins'.alike halike.failures halike.foreign⟩

/-- A write of what was proposed for two nodes, after other writers have had their turn. -/
theorem update_matches (hserver : server.Lawful t.node) (haddr : Addressable t.node)
    (halike : Alike server t.node m s) (htwins : Twins server t.node n v token m s)
    (hw : t.proposal n.record = .ok (some w)) (hw' : t.proposal (record v) = .ok (some w'))
    (hsame : w'.annotations = w.annotations) (writes : List ForeignWrite) (attempt : Nat) :
    (t.afterWrite attempt ((landAll (MemoryStore.rewrite t.node) writes m).update w).1).1 =
        (t.afterWrite attempt (server.store.update w'
          (landAll server.foreign writes s)).1).1 ∧
      Alike server t.node ((landAll (MemoryStore.rewrite t.node) writes m).update w).2
        (server.store.update w' (landAll server.foreign writes s)).2 := by
  cases writes with
  | nil =>
    obtain ⟨⟨r, hown⟩, ⟨r', hserved⟩, halike'⟩ :=
      update_twins hserver haddr halike htwins hw hw' hsame
    refine ⟨?_, halike'⟩
    show (t.afterWrite attempt (m.update w).1).1 =
      (t.afterWrite attempt (server.store.update w' s).1).1
    rw [hown, hserved]
    rfl
  | cons write writes =>
    obtain ⟨hname, hversion, -⟩ := EditTask.keeps_proposal hw
    obtain ⟨hname', hversion', -⟩ := EditTask.keeps_proposal hw'
    have hover : Overtaken server t.node n.version token
        (landAll (MemoryStore.rewrite t.node) (write :: writes) m)
        (landAll server.foreign (write :: writes) s) :=
      overtaken_landAll hserver write writes htwins (Nat.le_refl _) htwins.given
    obtain ⟨⟨text, hown⟩, ⟨text', hserved⟩, halike'⟩ :=
      update_overtaken hserver haddr (halike.landAll hserver (write :: writes)) hover htwins.synced
        (hname.trans htwins.synced.name_eq) hversion (hname'.trans htwins.isNode.record_name)
        (hversion'.trans htwins.version)
    rw [hown, hserved]
    exact ⟨EditTask.afterWrite_conflict attempt _ _ _ _, halike'⟩

end Write

/-- Reads of corresponding nodes: both fail alike, or both show the same annotations. -/
theorem get_alike (hserver : server.Lawful t.node) (haddr : Addressable t.node) {m : MemoryStore}
    {s : σ} (halike : Alike server t.node m s) :
    Alike server t.node (m.get t.node).2 (server.store.get t.node s).2 ∧
      ((∃ e, (m.get t.node).1 = .error e ∧ (server.store.get t.node s).1 = .error e) ∨
        ∃ n v token, (m.get t.node).1 = .ok n.record ∧
          (server.store.get t.node s).1 = .ok (record v) ∧
          Twins server t.node n v token (m.get t.node).2 (server.store.get t.node s).2) := by
  rw [MemoryStore.get_eq]
  rcases halike.cases with ⟨hstored, hnode⟩ | ⟨n, v, token, htwins⟩
  · obtain ⟨hanswer, hnode'⟩ := ApiServer.get_missing hserver haddr hnode
    rw [hstored]
    exact ⟨alike_of_none halike.failures halike.foreign hstored hnode', .inl ⟨_, rfl, hanswer⟩⟩
  · obtain ⟨hanswer, hnode'⟩ := ApiServer.get_present hserver haddr htwins.served
    rw [htwins.stored]
    have htwins' : Twins server t.node n v token m.asked (server.store.get t.node s).2 :=
      ⟨htwins.stored, htwins.synced, hnode', htwins.isNode, htwins.version,
        ApiServer.given_get hserver haddr htwins.given, htwins.annotations⟩
    exact ⟨htwins'.alike halike.failures halike.foreign, .inr ⟨n, v, token, rfl, hanswer, htwins'⟩⟩

theorem cycle_matches_of_finished {m : MemoryStore} {s : σ} {plan : Schedule} {attempt : Nat}
    {result : EditResult}
    (hown : (t.afterRead attempt ((MemoryStore.contended t.node).get t.node (m, plan)).1).1 =
      .finished result)
    (hserved : (t.afterRead attempt (server.contended.get t.node (s, plan)).1).1 =
      .finished result)
    (halike : Alike server t.node ((MemoryStore.contended t.node).get t.node (m, plan)).2.1
      (server.contended.get t.node (s, plan)).2.1) :
    Matches server t.node (t.cycle (MemoryStore.contended t.node) attempt (m, plan))
      (t.cycle server.contended attempt (s, plan)) := by
  obtain ⟨hphase, hstate⟩ := EditTask.cycle_of_finished (MemoryStore.contended t.node) hown
  obtain ⟨hphase', hstate'⟩ := EditTask.cycle_of_finished server.contended hserved
  rw [Matches, hphase, hphase', hstate, hstate']
  exact ⟨rfl, halike, rfl⟩

/-- One attempt goes the same way in both stores. -/
theorem cycle_matches (hserver : server.Lawful t.node) (haddr : Addressable t.node)
    {m : MemoryStore} {s : σ} (halike : Alike server t.node m s) (attempt : Nat)
    (plan : Schedule) :
    Matches server t.node (t.cycle (MemoryStore.contended t.node) attempt (m, plan))
      (t.cycle server.contended attempt (s, plan)) := by
  obtain ⟨halike', hread⟩ := get_alike hserver haddr (halike.landAll hserver (plan.headD []))
  -- the versions of the two reads differ, and nothing of them is seen but in the writes
  rcases hread with ⟨e, hown, hserved⟩ | ⟨n, v, token, hown, hserved, htwins⟩
  · have hfetch : (t.afterRead attempt (.error e)).1 = .finished (.error (.fetch t.node e)) := rfl
    rw [← hown] at hfetch
    exact cycle_matches_of_finished hfetch (by rw [hown, ← hserved] at hfetch; exact hfetch) halike'
  · have hsame : n.record.annotations.getD .empty = (record v).annotations.getD .empty :=
      htwins.annotations
    rcases EditTask.afterRead_congr (t := t) hsame attempt with
      ⟨result, hresult, hresult'⟩ | ⟨w, w', hw, hw', hannotations, hwriting, hwriting'⟩
    · rw [← hown] at hresult
      rw [← hserved] at hresult'
      exact cycle_matches_of_finished hresult hresult' halike'
    · rw [← hown] at hwriting
      rw [← hserved] at hwriting'
      obtain ⟨hphase, hstate⟩ := EditTask.cycle_of_writing (s := (m, plan))
        (MemoryStore.contended t.node) hwriting
      obtain ⟨hphase', hstate'⟩ := EditTask.cycle_of_writing (s := (s, plan))
        server.contended hwriting'
      obtain ⟨hafter, halike''⟩ := update_matches hserver haddr halike' htwins hw hw' hannotations
        (plan.tail.headD []) attempt
      rw [Matches, hphase, hphase', hstate, hstate']
      exact ⟨hafter, halike'', rfl⟩

/-- As many attempts as are left go the same way. -/
theorem attempts_matches (hserver : server.Lawful t.node) (haddr : Addressable t.node) (left : Nat)
    {m : MemoryStore} {s : σ} (halike : Alike server t.node m s) (attempt : Nat)
    (plan : Schedule) :
    Matches server t.node
      (t.attempts (MemoryStore.contended t.node) left attempt (m, plan))
      (t.attempts server.contended left attempt (s, plan)) := by
  induction left generalizing m s attempt plan with
  | zero => exact ⟨rfl, halike, rfl⟩
  | succ left ih =>
    have hcycle := cycle_matches hserver haddr halike attempt plan
    rw [EditTask.attempts, EditTask.attempts]
    generalize t.cycle (MemoryStore.contended t.node) attempt (m, plan) = own at hcycle ⊢
    generalize t.cycle server.contended attempt (s, plan) = served at hcycle ⊢
    obtain ⟨p, m', plan'⟩ := own
    obtain ⟨p', s', plan''⟩ := served
    obtain ⟨hphase, halike', hplan⟩ := hcycle
    obtain rfl : plan' = plan'' := hplan
    have hphase' : p.phase = p'.phase := hphase
    dsimp only
    rw [hphase']
    cases hdue : p'.phase with
    | pausing attempt' => exact ih halike' (attempt + 1) plan'
    | _ => exact ⟨hphase, halike', rfl⟩

end Simulation

/-! ## The two stores -/

namespace EditTask

open Cluster.NodeObject (meta?)

/-- The patch that writes what an edit proposes makes the annotations those of the record when it is
merged into the object of the node, and changes nothing else.  An edit therefore comes to the same
end through a server and in memory and leaves the same annotations, whatever other writers do to
them between its questions. -/
theorem backends_agree (t : EditTask) (server : ApiServer σ) (hserver : server.Lawful t.node)
    (haddr : Addressable t.node) :
    (∀ v w, IsNode t.node v → t.proposal (record v) = .ok (some w) →
      ∃ q patch, Cluster.Request.write w = .ok q ∧ q.change = some patch ∧
        (∃ a μ, meta? (v.merge patch) "annotations" = some a ∧ a.Texts μ ∧
          (record (v.merge patch)).annotations = some μ ∧ w.annotations = some μ) ∧
        (∀ m r, (MemoryStore.update w m).1 = .ok r →
          (MemoryStore.update w m).2.record? t.node = some r ∧
            r.annotations = (record (v.merge patch)).annotations) ∧
        (∀ k, k ≠ "metadata" → (v.merge patch).get? k = v.get? k) ∧
        ∀ k, k ≠ "annotations" → meta? (v.merge patch) k = meta? v k) ∧
    ∀ m s plan, Alike server t.node m s →
      let own := t.run (MemoryStore.contended t.node) (m, plan)
      let served := t.run server.contended (s, plan)
      own.1.phase = served.1.phase ∧
        own.2.1.annotations? t.node = server.annotations? served.2.1 := by
  refine ⟨fun v w hv hw => ?_, fun m s plan halike => ?_⟩
  · obtain ⟨hname, hversion, μ, hμ, hkept⟩ := keeps_proposal hw
    obtain ⟨q, hq, target, -, rfl⟩ := haddr.write (hname.trans hv.record_name)
    obtain ⟨a, ha, htexts⟩ := Cluster.NodeObject.texts_merge_patchOf hv hμ hkept
    have hmerged := Cluster.NodeObject.annotations_record ha htexts
    obtain ⟨token, htoken⟩ := hv.version
    have hnamed : w.version = some token :=
      hversion.trans (Cluster.NodeObject.version_record htoken)
    refine ⟨_, Cluster.Request.patchOf w, hq, rfl, ⟨a, μ, ha, htexts, hmerged, hμ⟩,
      fun m r hok => ?_, fun k hk => Cluster.NodeObject.get?_merge_patchOf_of_ne w v hk,
      fun k hk => ?_⟩
    · obtain ⟨hstored, hr⟩ := MemoryStore.record?_of_update hok
      rw [← hv.record_name, ← hname, hmerged, ← hμ]
      exact ⟨hstored, hr⟩
    · -- the patch does name the version, but the one that the object has
      by_cases hk' : k = "resourceVersion"
      · rw [hk', Cluster.NodeObject.meta?_merge_patchOf_version hnamed, htoken]
      · exact Cluster.NodeObject.meta?_merge_patchOf_of_ne w v hk hk'
  · obtain ⟨hphase, halike', -⟩ :=
      attempts_matches hserver haddr t.retry.budget halike 1 plan
    exact ⟨hphase, halike'.annotations⟩

/-- The object of a node without annotations. -/
def bareObject : Json.Value :=
  .object [("metadata", .object [("name", .text "n"), ("resourceVersion", .text "1")])]

/-- The same node in memory. -/
def bareNode : MemoryStore := MemoryStore.empty.insertNode "n" none

/-- A driver that is to be recorded on it. -/
def bareTask : EditTask := { node := "n", edit := .upsert "a" "1" }

theorem alike_bare : Alike ApiServer.counting "n" bareNode (some bareObject, 1) := by
  have hnode : IsNode "n" bareObject := ⟨rfl, ⟨"1", rfl⟩, .inl rfl⟩
  have htwins : Twins ApiServer.counting "n" ⟨⟨"n", none, some "1"⟩, 1⟩ bareObject "1" bareNode
      (some bareObject, 1) :=
    ⟨rfl, ⟨rfl, rfl⟩, rfl, hnode, rfl, ⟨1, Nat.le_refl 1, rfl⟩, rfl⟩
  exact htwins.alike rfl rfl

/-- Another writer leaves a note between the read and the write of the first attempt.  The second
attempt succeeds in memory and through the server, and both keep the note. -/
theorem backends_agree_of_overtaken :
    ApiServer.counting.Lawful "n" ∧ Addressable "n" ∧
      Alike ApiServer.counting "n" bareNode (some bareObject, 1) ∧
      (let plan : Schedule := [[], [(·.insert "note" "seen")]]
      let own := bareTask.run (MemoryStore.contended bareTask.node) (bareNode, plan)
      let served := bareTask.run ApiServer.counting.contended ((some bareObject, 1), plan)
      own.1.phase.result? = some (.ok (.updated 2)) ∧
        served.1.phase.result? = some (.ok (.updated 2)) ∧
        (own.2.1.annotations? bareTask.node).bind (·.get? "note") = some "seen" ∧
        (ApiServer.counting.annotations? served.2.1).bind (·.get? "note") = some "seen") := by
  have haddr : Addressable "n" := by
    refine Cluster.addressable_of_inPath (by decide) ?_ (by decide)
    rw [funext Uri.inPath_eq]
    decide
  have hown : (bareTask.run (MemoryStore.contended bareTask.node)
      (bareNode, [[], [(·.insert "note" "seen")]])).1.phase.result? = some (.ok (.updated 2)) := by
    decide +kernel
  have hnote : ((bareTask.run (MemoryStore.contended bareTask.node)
      (bareNode, [[], [(·.insert "note" "seen")]])).2.1.annotations? bareTask.node).bind
        (·.get? "note") = some "seen" := by
    decide +kernel
  obtain ⟨-, hsame⟩ := backends_agree bareTask ApiServer.counting
    (ApiServer.lawful_counting "n") haddr
  obtain ⟨hphase, hannotations⟩ :=
    hsame bareNode (some bareObject, 1) [[], [(·.insert "note" "seen")]] alike_bare
  exact ⟨ApiServer.lawful_counting "n", haddr, alike_bare, hown,
    (congrArg Phase.result? hphase).symm.trans hown, hnote,
    (congrArg (·.bind (·.get? "note")) hannotations).symm.trans hnote⟩

end EditTask

end DriverRegistration
