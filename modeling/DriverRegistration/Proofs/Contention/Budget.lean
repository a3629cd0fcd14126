import DriverRegistration.Proofs.Contention.Contest
import DriverRegistration.Proofs.DriverMap.Codec
import DriverRegistration.Proofs.DriverMap.Edits

/-!
# The budget under contention

Clients that edit one value, with nobody else at the store, lose a write only to the write of
another one of them, and every one of them writes once at most.  With as many attempts as there are
clients nobody runs out of attempts.

The invariant is `Contest.Serial`: the value is what the edits of the clients that have ended make
of the first one, made one after another, and the node has moved by one version for every edit that
changed something.  A client that is in a further attempt has lost to as many changes
(`EditTask.InStep`).
-/

namespace DriverRegistration

open EditTask (Phase Call Turn BasedOn Makes)
open DriverEdit (runs changes runs_concat changes_concat run_eq_self run_ne_self_iff)

/-- The phase of an edit agrees with the number of changes that were made so far, from a version on:
every attempt before this one has lost to a change of its own. -/
def EditTask.InStep (t : EditTask) (s : MemoryStore) (version changes bound : Nat) : Phase → Prop
  | .reading attempt => attempt ≤ changes + 1
  | .writing attempt r => ∃ n, t.BasedOn s r n ∧ version + attempt ≤ n.version + 1
  | .pausing attempt => attempt ≤ changes
  | .finished result =>
    result = .ok .unchanged ∨ ∃ attempts, result = .ok (.updated attempts) ∧ attempts ≤ bound
  | .stuck => True

theorem EditTask.InStep.mono {t : EditTask} {s s' : MemoryStore}
    {version changes changes' bound : Nat} {phase : Phase}
    (h : t.InStep s version changes bound phase) (hg : s.Grows s') (hle : changes ≤ changes') :
    t.InStep s' version changes' bound phase := by
  cases phase with
  | reading attempt => exact Nat.le_trans h (Nat.succ_le_succ hle)
  | writing attempt r =>
    obtain ⟨n, hb, hn⟩ := h
    exact ⟨n, hb.grows hg, hn⟩
  | pausing attempt => exact Nat.le_trans h hle
  | finished result => exact h
  | stuck => trivial

/-- The edit of a client that has ended. -/
def Client.made? (client : Client) : Option DriverEdit :=
  client.phase.result?.map fun _ => client.task.edit

namespace Contest

/-- Edits of one value that decodes, each with an attempt for every one of them, and nothing in the
queues of the store. -/
structure Shared (tasks : List EditTask) (node key : String) (store : MemoryStore)
    (m : DriverMap) : Prop where
  synced : store.Synced
  key_ne : key ≠ ""
  task : ∀ t ∈ tasks, t.node = node ∧ t.key = key ∧ tasks.length ≤ t.retry.budget
  exists_node : ∃ n, store.nodes.get? node = some n
  value : DriverMap.decode (store.value? node key) = .ok m
  foreign : store.foreign = []
  failures : store.failures = []

/-! ## Edits of the clients that have ended -/

/-- The edits of the clients that have ended. -/
def made (c : Contest) : List DriverEdit := c.clients.filterMap Client.made?

section Made

variable {clients : List Client} {i : Nat} {client client' : Client}

theorem exists_split (hi : clients[i]? = some client) (client' : Client) :
    ∃ before after, clients = before ++ client :: after ∧
      clients.set i client' = before ++ client' :: after := by
  obtain ⟨hlt, hget⟩ := List.getElem?_eq_some_iff.1 hi
  refine ⟨clients.take i, clients.drop (i + 1), ?_, ?_⟩
  · rw [← hget, List.getElem_cons_drop, List.take_append_drop]
  · rw [List.set_eq_take_append_cons_drop, if_pos hlt]

theorem filterMap_made_set_of_eq (hi : clients[i]? = some client)
    (h : client'.made? = client.made?) :
    (clients.set i client').filterMap Client.made? = clients.filterMap Client.made? := by
  obtain ⟨before, after, hclients, hset⟩ := exists_split hi client'
  rw [hset, hclients]
  simp only [List.filterMap_append, List.filterMap_cons, h]

theorem filterMap_made_set_perm (hi : clients[i]? = some client) (h : client.made? = none)
    {e : DriverEdit} (h' : client'.made? = some e) :
    (clients.filterMap Client.made? ++ [e]).Perm
      ((clients.set i client').filterMap Client.made?) := by
  obtain ⟨before, after, hclients, hset⟩ := exists_split hi client'
  rw [hset, hclients]
  simp only [List.filterMap_append, List.filterMap_cons, h, h']
  exact (List.perm_append_singleton e _).trans List.perm_middle.symm

/-- While a client is on its way, fewer edits have ended than there are clients. -/
theorem length_filterMap_made_lt (hi : clients[i]? = some client) (h : client.made? = none) :
    (clients.filterMap Client.made?).length < clients.length := by
  obtain ⟨before, after, hclients, -⟩ := exists_split hi client
  have hbefore := List.length_filterMap_le Client.made? before
  have hafter := List.length_filterMap_le Client.made? after
  rw [hclients]
  simp only [List.filterMap_append, List.filterMap_cons, h, List.length_append, List.length_cons]
  omega

theorem filterMap_made_of_ended (h : ∀ client ∈ clients, client.phase.result?.isSome) :
    clients.filterMap Client.made? = (clients.map Client.task).map (·.edit) := by
  induction clients with
  | nil => rfl
  | cons client clients ih =>
    obtain ⟨hfirst, hrest⟩ := List.forall_mem_cons.1 h
    obtain ⟨result, hresult⟩ := Option.isSome_iff_exists.1 hfirst
    have hmade : client.made? = some client.task.edit := by
      rw [Client.made?, hresult]
      rfl
    rw [List.filterMap_cons, hmade, ih hrest]
    rfl

end Made

/-! ## The store -/

/-- The store in which edits of one value were made one after another, from a first store on, and
nothing else but the counts of reads and updates has changed. -/
structure After (store : MemoryStore) (node key : String) (n₀ : StoredNode) (m : DriverMap)
    (es : List DriverEdit) (s : MemoryStore) : Prop where
  synced : s.Synced
  moved : ∃ n, s.nodes.get? node = some n ∧ n.version = n₀.version + changes es m
  value : DriverMap.decode (s.value? node key) = .ok (runs es m)
  writes : s.writes = store.writes + changes es m
  otherValues : ∀ k, k ≠ key → s.value? node k = store.value? node k
  otherNodes : ∀ name, name ≠ node → s.nodes.get? name = store.nodes.get? name
  foreign : s.foreign = []
  failures : s.failures = []

section After

variable {store s s' : MemoryStore} {node key : String} {n₀ n : StoredNode} {m m' : DriverMap}
  {es : List DriverEdit} {t : EditTask}

/-- The driver map that a read of the node brings. -/
theorem After.read (h : After store node key n₀ m es s) (hn : s.nodes.get? node = some n) :
    DriverMap.decode (n.record.value? key) = .ok (runs es m) := by
  have hvalue := h.value
  rwa [MemoryStore.value?_of_get? hn] at hvalue

theorem After.version (h : After store node key n₀ m es s) (hn : s.nodes.get? node = some n) :
    n.version = n₀.version + changes es m := by
  obtain ⟨n', hn', hversion⟩ := h.moved
  rw [hn, Option.some.injEq] at hn'
  rw [hn', hversion]

theorem After.asked (h : After store node key n₀ m es s) : After store node key n₀ m es s.asked :=
  ⟨h.synced.of_nodes_eq rfl, h.moved, h.value, h.writes, h.otherValues, h.otherNodes, h.foreign,
    h.failures⟩

theorem After.counted (h : After store node key n₀ m es s) :
    After store node key n₀ m es s.counted :=
  ⟨h.synced.of_nodes_eq rfl, h.moved, h.value, h.writes, h.otherValues, h.otherNodes, h.foreign,
    h.failures⟩

/-- An edit that the value reflects may count as made. -/
theorem After.reflected (h : After store node key n₀ m es s) {e : DriverEdit}
    (he : e.holds (runs es m) = true) : After store node key n₀ m (es ++ [e]) s := by
  have hruns : runs (es ++ [e]) m = runs es m := by
    rw [runs_concat, run_eq_self he]
  have hchanges : changes (es ++ [e]) m = changes es m := by
    rw [changes_concat, he]
    rfl
  constructor
  · exact h.synced
  · rw [hchanges]
    exact h.moved
  · rw [hruns]
    exact h.value
  · rw [hchanges]
    exact h.writes
  · exact h.otherValues
  · exact h.otherNodes
  · exact h.foreign
  · exact h.failures

/-- An edit that is made in the store comes after those before. -/
theorem After.made (h : After store t.node t.key n₀ m es s) (hm : t.Makes n m' s s')
    (hsynced : s'.Synced) (hwrites : s'.writes = s.writes + 1) (hforeign : s'.foreign = [])
    (hfailures : s'.failures = []) : After store t.node t.key n₀ m (es ++ [t.edit]) s' := by
  obtain rfl : m' = runs es m := Except.ok.inj (hm.read.symm.trans h.value)
  have hchanges : changes (es ++ [t.edit]) m = changes es m + 1 := by
    rw [changes_concat, run_ne_self_iff.1 hm.changes]
    rfl
  constructor
  · exact hsynced
  · obtain ⟨n', hn', hversion'⟩ := hm.version
    have hversion := h.version hm.node
    exact ⟨n', hn', by omega⟩
  · rw [hm.value, DriverMap.decode_encode, runs_concat]
  · rw [hwrites, h.writes, hchanges, Nat.add_assoc]
  · intro k hk
    rw [hm.otherValues k hk, h.otherValues k hk]
  · intro name hname
    rw [hm.otherNodes name hname, h.otherNodes name hname]
  · exact hforeign
  · exact hfailures

end After

/-! ## The invariant -/

/-- The edits of the clients that have ended were made one after another, and every client on its
way is in step with the changes that they made. -/
structure Serial (store : MemoryStore) (node key : String) (n₀ : StoredNode) (m : DriverMap)
    (c : Contest) (es : List DriverEdit) : Prop where
  perm : es.Perm c.made
  store : After store node key n₀ m es c.store
  inStep : ∀ (i : Nat) (t : EditTask) (phase : Phase), c.clients[i]? = some ⟨t, phase⟩ →
    t.InStep c.store n₀.version (changes es m) c.clients.length phase

section Serial

variable {store s' : MemoryStore} {node key : String} {n₀ : StoredNode} {m : DriverMap}
  {es es' : List DriverEdit} {c : Contest} {i : Nat} {t : EditTask} {phase phase' : Phase}

/-- As long as a client is on its way, fewer changes were made than there are clients. -/
theorem Serial.changes_lt (h : Serial store node key n₀ m c es)
    (hi : c.clients[i]? = some ⟨t, phase⟩) (hphase : phase.result? = none) :
    changes es m < c.clients.length := by
  have hlt := length_filterMap_made_lt hi (by rw [Client.made?, hphase]; rfl)
  have hle := DriverEdit.changes_le_length es m
  have hlength := h.perm.length_eq
  unfold made at hlength
  omega

/-- A write is refused only as a conflict, and every attempt that was refused can be charged to a
change of its own. -/
theorem Serial.charge {attempt : Nat} {r : NodeRecord} {e : StoreError}
    (h : Serial store t.node t.key n₀ m c es)
    (hi : c.clients[i]? = some ⟨t, .writing attempt r⟩)
    (hu : c.store.Updates r (.error e) s') :
    attempt ≤ changes es m ∧ e.isConflict = true ∧ s' = c.store.counted := by
  obtain ⟨n, hb, hattempt⟩ := h.inStep i t _ hi
  obtain ⟨⟨n', hn', hlater⟩, hconflict, hs'⟩ := hb.of_refused h.store.foreign h.store.failures hu
  have hversion := h.store.version hn'
  exact ⟨by omega, hconflict, hs'⟩

/-- Whatever a client does, the others stay in step. -/
theorem Serial.set (h : Serial store node key n₀ m c es) (hi : c.clients[i]? = some ⟨t, phase⟩)
    (hs : After store node key n₀ m es' s') (hg : c.store.Grows s')
    (hle : changes es m ≤ changes es' m)
    (hp : t.InStep s' n₀.version (changes es' m) c.clients.length phase')
    (hmade : es'.Perm ((c.clients.set i ⟨t, phase'⟩).filterMap Client.made?))
    (calls : List (Nat × Call)) :
    Serial store node key n₀ m ⟨s', c.clients.set i ⟨t, phase'⟩, calls⟩ es' := by
  refine ⟨hmade, hs, fun j t' phase'' hj => ?_⟩
  show t'.InStep s' n₀.version (changes es' m) (c.clients.set i ⟨t, phase'⟩).length phase''
  rw [List.length_set]
  rw [getElem?_set_of_some hi] at hj
  split at hj
  · cases hj
    exact hp
  · exact (h.inStep j t' phase'' hj).mono hg hle

/-- A client that does not end leaves the edits that were made as they are. -/
theorem Serial.goOn (h : Serial store node key n₀ m c es) (phase' : Phase)
    (hi : c.clients[i]? = some ⟨t, phase⟩) (hs : After store node key n₀ m es s')
    (hg : c.store.Grows s') (hp : t.InStep s' n₀.version (changes es m) c.clients.length phase')
    (hphase : phase'.result? = phase.result?) (calls : List (Nat × Call)) :
    Serial store node key n₀ m ⟨s', c.clients.set i ⟨t, phase'⟩, calls⟩ es := by
  refine h.set hi hs hg (Nat.le_refl _) hp ?_ calls
  rw [filterMap_made_set_of_eq hi (by rw [Client.made?, Client.made?, hphase])]
  exact h.perm

/-- A client that ends adds its edit to those that were made. -/
theorem Serial.finish (h : Serial store node key n₀ m c es)
    (hi : c.clients[i]? = some ⟨t, phase⟩) (hphase : phase.result? = none)
    (hs : After store node key n₀ m (es ++ [t.edit]) s') (hg : c.store.Grows s')
    {outcome : EditOutcome} (houtcome : outcome = .unchanged ∨
      ∃ attempts, outcome = .updated attempts ∧ attempts ≤ c.clients.length)
    (calls : List (Nat × Call)) :
    Serial store node key n₀ m ⟨s', c.clients.set i ⟨t, .finished (.ok outcome)⟩, calls⟩
      (es ++ [t.edit]) := by
  have hmade : (⟨t, phase⟩ : Client).made? = none := by
    rw [Client.made?, hphase]
    rfl
  refine h.set hi hs hg ?_ ?_ ?_ calls
  · rw [changes_concat]
    exact Nat.le_add_right _ _
  · rcases houtcome with rfl | ⟨attempts, rfl, hle⟩
    · exact Or.inl rfl
    · exact Or.inr ⟨attempts, rfl, hle⟩
  · exact (h.perm.append_right _).trans (filterMap_made_set_perm hi hmade rfl)

/-- Clients that edit the one value, each with an attempt for every one of them. -/
def Sharing (c : Contest) (node key : String) : Prop :=
  ∀ client ∈ c.clients, client.task.node = node ∧ client.task.key = key ∧
    c.clients.length ≤ client.task.retry.budget

/-- A turn of any client adds at most its edit, and leads to the budget's end for nobody. -/
theorem Serial.turn (h : Serial store node key n₀ m c es) (hkey : key ≠ "")
    (hsharing : c.Sharing node key) (i : Nat) :
    ∃ es', Serial store node key n₀ m (c.turn i) es' := by
  rcases c.turn_cases i with ⟨-, hc⟩ | ⟨t, phase, phase', calls, s', hi, hturn, hc⟩
  · exact ⟨es, by rwa [hc]⟩
  rw [hc]
  have hclient : t.node = node ∧ t.key = key ∧ c.clients.length ≤ t.retry.budget :=
    hsharing _ (List.mem_of_getElem? hi)
  obtain ⟨rfl, rfl, hbudget⟩ := hclient
  have hstep := h.inStep i t phase hi
  have hgrows := hturn.grows
  have hsynced := hturn.synced h.store.synced
  cases hturn with
  | missing hn =>
    obtain ⟨n, hn', -⟩ := h.store.moved
    rw [hn] at hn'
    cases hn'
  | corrupt hn hp =>
    rw [EditTask.proposal_eq_error_iff, h.store.read hn] at hp
    cases hp
  | reflected hn hp =>
    obtain ⟨m', hd, hholds⟩ := EditTask.proposal_eq_none_iff.1 hp
    rw [h.store.read hn, Except.ok.injEq] at hd
    subst hd
    exact ⟨_, h.finish hi rfl (h.store.reflected hholds).asked hgrows (Or.inl rfl) _⟩
  | @proposed attempt n r hn hp =>
    have hb := (BasedOn.of_read h.store.synced hn hp).grows hgrows
    have hversion := h.store.version hn
    have hattempt : attempt ≤ changes es m + 1 := hstep
    exact ⟨es, h.goOn (.writing attempt r) hi h.store.asked hgrows ⟨n, hb, by omega⟩ rfl _⟩
  | @written attempt r r' _ hu =>
    obtain ⟨n₁, hb, hattempt⟩ := hstep
    obtain ⟨m', hm⟩ := hb.makes hkey h.store.synced hu
    obtain ⟨hn₁, hforeign, rfl⟩ := hb.of_written h.store.synced hu
    have hversion := h.store.version hn₁
    have hlt := h.changes_lt hi rfl
    have hmade := h.store.made hm hsynced rfl hforeign h.store.failures
    exact ⟨_, h.finish hi rfl hmade hgrows (Or.inr ⟨attempt, rfl, by omega⟩) _⟩
  | @refused attempt r e _ _ hu hp =>
    obtain ⟨hle, hconflict, rfl⟩ := h.charge hi hu
    have hlt := h.changes_lt hi rfl
    rcases EditTask.afterWrite_error t attempt e with
      ⟨hphase, -⟩ | hphase | ⟨failure, hphase, hexhausted⟩
    · rw [hphase] at hp
      subst hp
      exact ⟨es, h.goOn (.pausing attempt) hi h.store.counted hgrows hle rfl _⟩
    · rw [hphase] at hp
      subst hp
      exact ⟨es, h.goOn .stuck hi h.store.counted hgrows trivial rfl _⟩
    · have hout := hexhausted hconflict
      omega
  | @resumed attempt =>
    exact ⟨es, h.goOn (.reading (attempt + 1)) hi h.store hgrows (Nat.succ_le_succ hstep) rfl _⟩
  | ended => exact ⟨es, h.goOn _ hi h.store hgrows hstep rfl _⟩
  | stuck => exact ⟨es, h.goOn .stuck hi h.store hgrows trivial rfl _⟩

end Serial

/-! ## Any order of turns -/

variable {tasks : List EditTask} {node key : String} {store : MemoryStore} {m : DriverMap}

theorem Shared.sharing (h : Shared tasks node key store m) {c : Contest}
    (hc : c.clients.map Client.task = tasks) : c.Sharing node key := by
  intro client hmem
  have hlength : c.clients.length = tasks.length := by rw [← hc, List.length_map]
  rw [hlength]
  exact h.task _ (hc ▸ List.mem_map_of_mem hmem)

theorem Shared.serial_ofTasks (h : Shared tasks node key store m) {n₀ : StoredNode}
    (hn₀ : store.nodes.get? node = some n₀) :
    Serial store node key n₀ m (ofTasks tasks store) [] := by
  refine ⟨?_, ⟨h.synced, ⟨n₀, hn₀, rfl⟩, h.value, rfl, fun _ _ => rfl, fun _ _ => rfl, h.foreign,
    h.failures⟩, ?_⟩
  · have hnone : (ofTasks tasks store).made = [] := by
      refine List.filterMap_eq_nil_iff.2 fun client hmem => ?_
      obtain ⟨t, -, rfl⟩ := List.mem_map.1 hmem
      rfl
    rw [hnone]
  · intro i t phase hi
    simp only [ofTasks, List.getElem?_map, Option.map_eq_some_iff] at hi
    obtain ⟨t', -, hclient⟩ := hi
    cases hclient
    exact Nat.le_refl 1

/-- After any turns, the edits of the clients that have ended were made one after another. -/
theorem Shared.serial_run (h : Shared tasks node key store m) {n₀ : StoredNode}
    (hn₀ : store.nodes.get? node = some n₀) (schedule : List Nat) :
    ∃ es, Serial store node key n₀ m ((ofTasks tasks store).run (schedule.map .turn)) es := by
  have hrun := run_induction (c := ofTasks tasks store) (schedule.map .turn)
    (P := fun c => c.clients.map Client.task = tasks ∧ ∃ es, Serial store node key n₀ m c es)
    ⟨tasks_run tasks store [], [], h.serial_ofTasks hn₀⟩ ?_
  · exact hrun.2
  · rintro c move hmove ⟨htasks, es, hserial⟩
    obtain ⟨i, -, rfl⟩ := List.mem_map.1 hmove
    exact ⟨(tasks_turn c i).trans htasks, hserial.turn h.key_ne (h.sharing htasks) i⟩

/-! ## Every client ends -/

/-- Three more than the turns that an edit on its way has taken. -/
def turns? : Phase → Option Nat
  | .reading attempt => some (3 * attempt)
  | .writing attempt _ => some (3 * attempt + 1)
  | .pausing attempt => some (3 * attempt + 2)
  | _ => none

theorem turns?_of_turn {t : EditTask} {s s' : MemoryStore} {phase phase' : Phase}
    {calls : List Call} (h : Turn t s phase phase' calls s') {k : Nat}
    (hk : turns? phase' = some k) : ∃ k', turns? phase = some k' ∧ k = k' + 1 := by
  cases h with
  | missing | corrupt | reflected | written | ended | stuck => cases hk
  | @proposed attempt =>
    cases hk
    exact ⟨3 * attempt, rfl, rfl⟩
  | @refused attempt _ e _ _ _ hp =>
    refine ⟨3 * attempt + 1, rfl, ?_⟩
    rcases EditTask.afterWrite_error t attempt e with
      ⟨hphase, -⟩ | hphase | ⟨failure, hphase, -⟩
    all_goals
      rw [hphase] at hp
      subst hp
      cases hk
    rfl
  | @resumed attempt =>
    cases hk
    exact ⟨3 * attempt + 2, rfl, rfl⟩

/-- A client on its way has taken all the turns that were its own. -/
theorem turns?_run {c : Contest} {schedule : List Nat} {i k : Nat} {client : Client}
    (hi : (c.run (schedule.map .turn)).clients[i]? = some client)
    (hk : turns? client.phase = some k) :
    ∃ first k', c.clients[i]? = some first ∧ turns? first.phase = some k' ∧
      k = k' + schedule.count i := by
  induction schedule generalizing c with
  | nil => exact ⟨client, k, hi, hk, rfl⟩
  | cons j schedule ih =>
    obtain ⟨next, k', hnext, hk', hcount⟩ := ih hi
    rw [List.count_cons]
    change (c.turn j).clients[i]? = some next at hnext
    rcases c.turn_cases j with ⟨hj, hc⟩ | ⟨t, phase, phase', calls, s', hj, hturn, hc⟩
    · rw [hc] at hnext
      have hne : j ≠ i := by
        rintro rfl
        rw [hj] at hnext
        cases hnext
      exact ⟨next, k', hnext, hk', by simp [hne, hcount]⟩
    · rw [hc] at hnext
      rw [getElem?_set_of_some hj] at hnext
      split at hnext
      · next hij =>
        cases hnext
        obtain ⟨k'', hk'', hsucc⟩ := turns?_of_turn hturn hk'
        refine ⟨⟨t, phase⟩, k'', hij ▸ hj, hk'', ?_⟩
        rw [hij, beq_self_eq_true, if_pos rfl, ← hij]
        omega
      · next hij => exact ⟨next, k', hnext, hk', by simp [Ne.symm hij, hcount]⟩

/-- On its way, a client is in one of as many attempts as there are clients. -/
theorem Serial.turns?_le {c : Contest} {n₀ : StoredNode} {es : List DriverEdit}
    (h : Serial store node key n₀ m c es) (hsharing : c.Sharing node key) {i : Nat}
    {client : Client} (hi : c.clients[i]? = some client) {k : Nat}
    (hk : turns? client.phase = some k) : k ≤ 3 * c.clients.length + 2 := by
  obtain ⟨t, phase⟩ := client
  have hstep := h.inStep i t phase hi
  cases phase with
  | reading attempt =>
    cases hk
    have hlt := h.changes_lt hi rfl
    have hattempt : attempt ≤ changes es m + 1 := hstep
    omega
  | writing attempt r =>
    cases hk
    have hlt := h.changes_lt hi rfl
    obtain ⟨n, hb, hattempt⟩ := hstep
    obtain ⟨n₁, hn₁, hlater⟩ := hb.later
    have hnode : t.node = node := (hsharing _ (List.mem_of_getElem? hi)).1
    have hversion := h.store.version (hnode ▸ hn₁)
    have hle := hlater.version_le
    omega
  | pausing attempt =>
    cases hk
    have hlt := h.changes_lt hi rfl
    have hattempt : attempt ≤ changes es m := hstep
    omega
  | finished | stuck => cases hk

/-- A client that has had three turns for every client has ended, unless it has met a pause that is
not defined. -/
theorem Shared.ended_of_turns (h : Shared tasks node key store m) {schedule : List Nat} {i : Nat}
    (hcount : 3 * tasks.length ≤ schedule.count i) {client : Client}
    (hi : ((ofTasks tasks store).run (schedule.map .turn)).clients[i]? = some client) :
    client.phase.result?.isSome ∨ client.phase = .stuck := by
  obtain ⟨n₀, hn₀⟩ := h.exists_node
  obtain ⟨es, hserial⟩ := h.serial_run hn₀ schedule
  have htasks := tasks_run tasks store (schedule.map .turn)
  have hlength := congrArg List.length htasks
  rw [List.length_map] at hlength
  cases hk : turns? client.phase with
  | none =>
    obtain ⟨t, phase⟩ := client
    cases phase with
    | reading | writing | pausing => cases hk
    | finished result => exact Or.inl rfl
    | stuck => exact Or.inr rfl
  | some k =>
    obtain ⟨first, k', hfirst, hk', hsum⟩ := turns?_run hi hk
    simp only [ofTasks, List.getElem?_map, Option.map_eq_some_iff] at hfirst
    obtain ⟨t, -, rfl⟩ := hfirst
    have hstart : k' = 3 := (Option.some.inj hk').symm
    have hle := hserial.turns?_le (h.sharing htasks) hi hk
    omega

/-! ## The theorem -/

/-- Every client has ended. -/
def Ended (c : Contest) : Prop := ∀ client ∈ c.clients, client.phase.result?.isSome

/-- Nobody runs out of attempts: a client that has ended has succeeded, within as many attempts as
there are clients, and with three turns for every client it has ended.  When all have ended, the
edits were made one after another in some order, and for edits of different drivers the result and
the number of writes do not depend on the turns. -/
theorem bounded_contention (h : Shared tasks node key store m) (schedule : List Nat) {c : Contest}
    (hc : (ofTasks tasks store).run (schedule.map .turn) = c) :
    (∀ client ∈ c.clients, ∀ result, client.phase.result? = some result →
        result = .ok .unchanged ∨
          ∃ attempts, result = .ok (.updated attempts) ∧ attempts ≤ tasks.length) ∧
      (∀ (i : Nat) (client : Client), c.clients[i]? = some client →
        3 * tasks.length ≤ schedule.count i →
          client.phase.result?.isSome ∨ client.phase = .stuck) ∧
      (∀ k, k ≠ key → c.store.value? node k = store.value? node k) ∧
      (∀ name, name ≠ node → c.store.nodes.get? name = store.nodes.get? name) ∧
      (c.Ended → ∃ es, es.Perm (tasks.map (·.edit)) ∧
        DriverMap.decode (c.store.value? node key) = .ok (runs es m)) ∧
      (c.Ended → (tasks.map (·.edit.driver)).Nodup →
        DriverMap.decode (c.store.value? node key) = .ok (runs (tasks.map (·.edit)) m) ∧
          (∀ t ∈ tasks, (runs (tasks.map (·.edit)) m).get? t.edit.driver = t.edit.target) ∧
          (∀ driver, driver ∉ tasks.map (·.edit.driver) →
            (runs (tasks.map (·.edit)) m).get? driver = m.get? driver) ∧
          c.store.writes = store.writes + tasks.countP fun t => !t.edit.holds m) := by
  obtain ⟨n₀, hn₀⟩ := h.exists_node
  obtain ⟨es, hserial⟩ := h.serial_run hn₀ schedule
  have htasks := tasks_run tasks store (schedule.map .turn)
  rw [hc] at hserial htasks
  have hlength : c.clients.length = tasks.length := by rw [← htasks, List.length_map]
  have hmade : c.Ended → es.Perm (tasks.map (·.edit)) := by
    intro hended
    have hperm := hserial.perm
    rwa [made, filterMap_made_of_ended hended, htasks] at hperm
  refine ⟨?_, ?_, hserial.store.otherValues, hserial.store.otherNodes, ?_, ?_⟩
  · intro client hmem result hresult
    obtain ⟨i, hi⟩ := List.mem_iff_getElem?.1 hmem
    obtain ⟨t, phase⟩ := client
    have hstep := hserial.inStep i t phase hi
    rw [hlength] at hstep
    cases phase with
    | finished result' =>
      obtain rfl : result' = result := Option.some.inj hresult
      exact hstep
    | reading | writing | pausing | stuck => cases hresult
  · intro i client hi hcount
    exact h.ended_of_turns hcount (hc ▸ hi)
  · intro hended
    exact ⟨es, hmade hended, hserial.store.value⟩
  · intro hended hdrivers
    have hdrivers' : ((tasks.map (·.edit)).map DriverEdit.driver).Nodup := by
      rwa [List.map_map]
    have hperm := hmade hended
    have hnodup : (es.map DriverEdit.driver).Nodup :=
      (hperm.map DriverEdit.driver).nodup_iff.2 hdrivers'
    refine ⟨?_, ?_, ?_, ?_⟩
    · rw [hserial.store.value, DriverEdit.runs_eq_of_perm hperm hnodup]
    · intro t ht
      exact DriverEdit.get?_runs_of_mem hdrivers' (List.mem_map_of_mem ht) m
    · intro driver hdriver
      refine DriverEdit.get?_runs_of_not_mem ?_ m
      rwa [List.map_map]
    · rw [hserial.store.writes, DriverEdit.changes_eq_countP hnodup, hperm.countP_eq,
        List.countP_map]
      rfl

/-- Both registrars read the node before one of them writes it.  The write of the other one is
refused, and its second attempt succeeds. -/
theorem bounded_contention_of_two_recordings :
    Shared twoRecordings "n" standardKey (MemoryStore.empty.insertNode "n" none) .empty ∧
      ((ofTasks twoRecordings (MemoryStore.empty.insertNode "n" none)).run
        ([0, 1, 0, 1, 1, 1, 1].map .turn)).Ended ∧
      ((ofTasks twoRecordings (MemoryStore.empty.insertNode "n" none)).run
        ([0, 1, 0, 1, 1, 1, 1].map .turn)).clients.map (·.phase.result?) =
          [some (.ok (.updated 1)), some (.ok (.updated 2))] ∧
      ((ofTasks twoRecordings (MemoryStore.empty.insertNode "n" none)).run
        ([0, 1, 0, 1, 1, 1, 1].map .turn)).store.writes = 2 := by
  have hshared : Shared twoRecordings "n" standardKey (MemoryStore.empty.insertNode "n" none)
      .empty :=
    ⟨MemoryStore.synced_empty.insertNode "n" none, by decide, by decide,
      ⟨⟨⟨"n", none, some "1"⟩, 1⟩, rfl⟩, rfl, rfl, rfl⟩
  have hresults : ((ofTasks twoRecordings (MemoryStore.empty.insertNode "n" none)).run
      ([0, 1, 0, 1, 1, 1, 1].map .turn)).clients.map (·.phase.result?) =
        [some (.ok (.updated 1)), some (.ok (.updated 2))] := by
    decide +kernel
  have hended : ((ofTasks twoRecordings (MemoryStore.empty.insertNode "n" none)).run
      ([0, 1, 0, 1, 1, 1, 1].map .turn)).Ended := by
    intro client hmem
    have hresult : client.phase.result? ∈
        [some (.ok (.updated 1)), some (Except.ok (EditOutcome.updated 2))] :=
      hresults ▸ List.mem_map_of_mem hmem
    simp only [List.mem_cons, List.not_mem_nil, or_false] at hresult
    rcases hresult with h | h <;> rw [h] <;> rfl
  have hcounts :=
    (bounded_contention hshared [0, 1, 0, 1, 1, 1, 1] rfl).2.2.2.2.2 hended (by decide)
  exact ⟨hshared, hended, hresults, hcounts.2.2.2⟩

end Contest

end DriverRegistration
