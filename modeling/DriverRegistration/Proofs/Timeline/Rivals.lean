import DriverRegistration.Proofs.Reconcile.Turn
import DriverRegistration.Proofs.TextMap
import DriverRegistration.Timeline.Run

/-!
# A registrar that contends with itself

Where nobody else uses its node, the only rival of the removal is the cycle that is still on its
way.  The cycle writes at most once: from then on the node holds the entry, and a cycle that reads
it has nothing to write (`Lone.Tended`).  An attempt of the removal is lost only to a write of the
cycle that came after its read, so the removal has lost at most as often as the cycle has written
(`Lone.Stage`), and the budget of two attempts is enough (`Lone.Stage.turn`).
-/

namespace DriverRegistration

open EditTask (Phase Call Turn)

/-- Whether a question was a write that the store refused. -/
def EditTask.Call.refused : Call → Bool
  | .update _ (.error _) => true
  | _ => false

/-! ## What stays as it is -/

/-- Nothing has changed but the value under one key of one node. -/
structure MemoryStore.KeepsRest (node key : String) (s s' : MemoryStore) : Prop where
  values : ∀ k, k ≠ key → s'.value? node k = s.value? node k
  nodes : ∀ name, name ≠ node → s'.nodes.get? name = s.nodes.get? name

namespace MemoryStore.KeepsRest

variable {node key : String} {s s' s'' : MemoryStore}

theorem of_nodes_eq (h : s'.nodes = s.nodes) : KeepsRest node key s s' := by
  constructor
  · intro k _
    rw [value?, value?, record?, record?, h]
  · intro name _
    rw [h]

theorem trans (h : KeepsRest node key s s') (h' : KeepsRest node key s' s'') :
    KeepsRest node key s s'' :=
  ⟨fun k hk => (h'.values k hk).trans (h.values k hk),
    fun name hname => (h'.nodes name hname).trans (h.nodes name hname)⟩

theorem of_makes {t : EditTask} {n : StoredNode} {m : DriverMap} (h : t.Makes n m s s') :
    KeepsRest t.node t.key s s' :=
  ⟨h.otherValues, h.otherNodes⟩

end MemoryStore.KeepsRest

namespace Timeline

/-- A registrar that is alone with a node, and what it finds there. -/
structure Lone where
  actor : Actor
  identity : DriverIdentity
  interval : Duration
  stop : Nat
  store : MemoryStore
  node : StoredNode
  map : DriverMap
  work_eq : actor.work = .runUntil identity interval stop
  key_ne : actor.reconciler.key ≠ ""
  two_le_budget : 2 ≤ actor.reconciler.retry.budget
  delay_ne : ∀ n, actor.reconciler.retry.delay n ≠ .undefined
  synced : store.Synced
  get?_node : store.nodes.get? actor.node = some node
  decode_map : DriverMap.decode (store.value? actor.node actor.reconciler.key) = .ok map
  foreign_eq : store.foreign = []
  failures_eq : store.failures = []

namespace Lone

variable (l : Lone)

/-- The edit of every cycle. -/
def recording : EditTask := l.actor.upsert l.identity

/-- The edit at the end. -/
def removal : EditTask := l.actor.removal l.identity

/-- The value under the key of the registrar. -/
def value? (s : MemoryStore) : Option String := s.value? l.actor.node l.actor.reconciler.key

/-! ## The store -/

/-- The store before the removal has written, after so many writes of the cycles. -/
structure Tended (written : Nat) (s : MemoryStore) : Prop where
  synced : s.Synced
  node : ∃ n, s.nodes.get? l.actor.node = some n ∧ n.version = l.node.version + written
  map : ∃ m, DriverMap.decode (l.value? s) = .ok m ∧
    m.erase l.identity.name = l.map.erase l.identity.name ∧
    (written ≠ 0 → m.get? l.identity.name = some l.identity.nodeId)
  few : written ≤ 1
  rest : MemoryStore.KeepsRest l.actor.node l.actor.reconciler.key l.store s
  foreign : s.foreign = []
  failures : s.failures = []
  writes : s.writes = l.store.writes + written

/-- The store after the removal, which has written so many times. -/
structure Cleared (written removed : Nat) (s : MemoryStore) : Prop where
  map : DriverMap.decode (l.value? s) = .ok (l.map.erase l.identity.name)
  few : written ≤ 1
  once : removed ≤ 1
  rest : MemoryStore.KeepsRest l.actor.node l.actor.reconciler.key l.store s
  writes : s.writes = l.store.writes + written + removed

theorem tended_store : l.Tended 0 l.store where
  synced := l.synced
  node := ⟨l.node, l.get?_node, rfl⟩
  map := ⟨l.map, l.decode_map, rfl, fun h => absurd rfl h⟩
  few := Nat.zero_le 1
  rest := .of_nodes_eq rfl
  foreign := l.foreign_eq
  failures := l.failures_eq
  writes := rfl

variable {l} {written : Nat} {s s' : MemoryStore} {r r' : NodeRecord} {n : StoredNode}

theorem value?_of_get? (hn : s.nodes.get? l.actor.node = some n) :
    l.value? s = n.record.value? l.actor.reconciler.key :=
  MemoryStore.value?_of_get? hn _

namespace Tended

theorem of_nodes_eq (h : l.Tended written s) (hnodes : s'.nodes = s.nodes)
    (hforeign : s'.foreign = s.foreign) (hfailures : s'.failures = s.failures)
    (hwrites : s'.writes = s.writes) : l.Tended written s' where
  synced := h.synced.of_nodes_eq hnodes
  node := by
    rw [hnodes]
    exact h.node
  map := by
    rw [value?, MemoryStore.value?, MemoryStore.record?, hnodes]
    exact h.map
  few := h.few
  rest := h.rest.trans (.of_nodes_eq hnodes)
  foreign := hforeign.trans h.foreign
  failures := hfailures.trans h.failures
  writes := hwrites.trans h.writes

theorem asked (h : l.Tended written s) : l.Tended written s.asked :=
  h.of_nodes_eq rfl rfl rfl rfl

theorem counted (h : l.Tended written s) : l.Tended written s.counted :=
  h.of_nodes_eq rfl rfl rfl rfl

theorem readable (h : l.Tended written s) (hn : s.nodes.get? l.actor.node = some n)
    (e : CorruptMap) : DriverMap.decode (n.record.value? l.actor.reconciler.key) ≠ .error e := by
  obtain ⟨m, hm, -⟩ := h.map
  rw [value?_of_get? hn] at hm
  intro he
  exact nomatch hm.symm.trans he

/-- A write of a cycle leaves the entry in the node. -/
theorem recorded (h : l.Tended 0 s) (hb : l.recording.BasedOn s r n)
    (hu : MemoryStore.Updates r s (.ok r') s') : l.Tended 1 s' := by
  obtain ⟨m, hmakes⟩ := hb.makes l.key_ne h.synced hu
  obtain ⟨n₁, hn₁, hversion₁⟩ := h.node
  obtain ⟨m₁, hm₁, herase, -⟩ := h.map
  obtain ⟨n', hn', hversion⟩ := hmakes.version
  obtain rfl : n₁ = n := Option.some.inj (hn₁.symm.trans hmakes.node)
  obtain rfl : m₁ = m := Except.ok.inj (hm₁.symm.trans hmakes.read)
  have hstore := (hb.of_written h.synced hu).2.2
  refine ⟨h.synced.updates hu, ⟨n', hn', by omega⟩,
    ⟨l.recording.edit.run m₁, ?_, ?_, fun _ => ?_⟩, Nat.le_refl 1, h.rest.trans (.of_makes hmakes),
    ?_, ?_, ?_⟩
  · exact (congrArg DriverMap.decode hmakes.value).trans (DriverMap.decode_encode _)
  · rw [← herase]
    exact TextMap.erase_insert m₁ l.identity.name l.identity.nodeId
  · show (m₁.insert l.identity.name l.identity.nodeId).get? _ = _
    rw [TextMap.get?_insert, if_pos rfl]
  · rw [hstore]
    exact h.foreign
  · rw [hstore]
    exact h.failures
  · rw [hstore]
    show s.writes + 1 = _
    rw [h.writes]

/-- Where the driver has no entry, there is nothing to remove. -/
theorem cleared (h : l.Tended written s) {m : DriverMap}
    (hm : DriverMap.decode (l.value? s) = .ok m) (hnone : m.get? l.identity.name = none) :
    l.Cleared written 0 s := by
  obtain ⟨m₁, hm₁, herase, -⟩ := h.map
  obtain rfl : m₁ = m := Except.ok.inj (hm₁.symm.trans hm)
  refine ⟨?_, h.few, Nat.zero_le 1, h.rest, h.writes⟩
  rw [← herase, TextMap.erase_eq_self hnone]
  exact hm

/-- A write of the removal leaves no entry in the node. -/
theorem dropped (h : l.Tended written s) (hb : l.removal.BasedOn s r n)
    (hu : MemoryStore.Updates r s (.ok r') s') : l.Cleared written 1 s' := by
  obtain ⟨m, hmakes⟩ := hb.makes l.key_ne h.synced hu
  obtain ⟨m₁, hm₁, herase, -⟩ := h.map
  obtain rfl : m₁ = m := Except.ok.inj (hm₁.symm.trans hmakes.read)
  have hstore := (hb.of_written h.synced hu).2.2
  refine ⟨?_, h.few, Nat.le_refl 1, h.rest.trans (.of_makes hmakes), ?_⟩
  · rw [← herase]
    exact (congrArg DriverMap.decode hmakes.value).trans (DriverMap.decode_encode _)
  · rw [hstore]
    show s.writes + 1 = _
    rw [h.writes]

/-- A cycle has something to write only before the first write. -/
theorem unwritten (h : l.Tended written s) (hn : s.nodes.get? l.actor.node = some n)
    (hp : l.recording.proposal n.record = .ok (some r)) : written = 0 := by
  obtain ⟨m, hm, hne, -⟩ := EditTask.proposal_eq_some_iff.1 hp
  obtain ⟨m₁, hm₁, -, hentry⟩ := h.map
  rw [value?_of_get? hn] at hm₁
  obtain rfl : m₁ = m := Except.ok.inj (hm₁.symm.trans hm)
  by_contra hwritten
  exact hne (DriverEdit.run_eq_self (DriverEdit.holds_iff.2 (hentry hwritten)))

end Tended

/-! ## The steps of a cycle -/

/-- A phase of a cycle: a record that waits to be written was proposed from the present node. -/
inductive Cycling (l : Lone) (written : Nat) (s : MemoryStore) : Phase → Prop
  | reading {attempt : Nat} : Cycling l written s (.reading attempt)
  | writing {attempt : Nat} {r : NodeRecord} {n : StoredNode}
      (hn : s.nodes.get? l.actor.node = some n) (hb : l.recording.BasedOn s r n)
      (hw : written = 0) : Cycling l written s (.writing attempt r)

theorem Cycling.of_nodes_eq {phase : Phase} (h : l.Cycling written s phase)
    (hnodes : s'.nodes = s.nodes) : l.Cycling written s' phase := by
  cases h with
  | reading => exact .reading
  | writing hn hb hw =>
    refine .writing ?_ (hb.grows (.of_nodes_eq hnodes)) hw
    rw [hnodes]
    exact hn

/-- A cycle is never refused: it goes on from its read to its write, or it ends well. -/
theorem Cycling.turn {phase phase' : Phase} {calls : List Call} (h : l.Cycling written s phase)
    (hs : l.Tended written s) (hturn : Turn l.recording s phase phase' calls s') :
    l.Tended (written + calls.countP Call.accepted) s' ∧
      ((∃ attempt r, phase = .reading attempt ∧ phase' = .writing attempt r ∧
          l.Cycling (written + calls.countP Call.accepted) s' phase') ∨
        ∃ outcome, phase' = .finished (.ok outcome)) := by
  obtain ⟨n₁, hn₁, -⟩ := hs.node
  cases h with
  | reading =>
    cases hturn with
    | missing hn => exact nomatch hn₁.symm.trans hn
    | corrupt hn hp => exact absurd (EditTask.proposal_eq_error_iff.1 hp) (hs.readable hn _)
    | reflected hn hp => exact ⟨hs.asked, Or.inr ⟨_, rfl⟩⟩
    | proposed hn hp =>
      exact ⟨hs.asked, Or.inl ⟨_, _, rfl, rfl,
        .writing hn ((EditTask.BasedOn.of_read hs.synced hn hp).grows (.of_nodes_eq rfl))
          (hs.unwritten hn hp)⟩⟩
  | writing hn hb hw =>
    subst hw
    cases hturn with
    | written hu => exact ⟨hs.recorded hb hu, Or.inr ⟨_, rfl⟩⟩
    | refused hu hp =>
      obtain ⟨⟨n', hn', hlt⟩, -⟩ := hb.of_refused hs.foreign hs.failures hu
      obtain rfl : n' = _ := Option.some.inj (hn'.symm.trans hn)
      exact absurd hlt (Nat.lt_irrefl _)

/-! ## The steps of the removal -/

/-- A phase of the removal, how often it has lost, and how many steps are left at most.  It has lost
no more often than the cycles have written, and a record that waits to be written was proposed after
as many of their writes as it has lost. -/
inductive Stage (l : Lone) (written : Nat) (s : MemoryStore) : Phase → Nat → Nat → Prop
  | reading {lost : Nat} (h : lost ≤ written) :
      Stage l written s (.reading (lost + 1)) lost (5 - 3 * lost)
  | writing {lost : Nat} {r : NodeRecord} {n : StoredNode} (hb : l.removal.BasedOn s r n)
      (hv : l.node.version + lost ≤ n.version) :
      Stage l written s (.writing (lost + 1) r) lost (4 - 3 * lost)
  | pausing {lost : Nat} (h : lost + 1 ≤ written) :
      Stage l written s (.pausing (lost + 1)) (lost + 1) (3 - 3 * lost)

section Stage

variable {written' lost left : Nat} {phase phase' : Phase} {calls : List Call}

theorem Stage.grows (h : l.Stage written s phase lost left) (hw : written ≤ written')
    (hg : s.Grows s') : l.Stage written' s' phase lost left := by
  cases h with
  | reading h => exact .reading (Nat.le_trans h hw)
  | writing hb hv => exact .writing (hb.grows hg) hv
  | pausing h => exact .pausing (Nat.le_trans h hw)

theorem Stage.lost_le (h : l.Stage written s phase lost left) (hs : l.Tended written s) :
    lost ≤ written := by
  cases h with
  | reading h => exact h
  | pausing h => exact h
  | writing hb hv =>
    obtain ⟨n, hn, hversion⟩ := hs.node
    obtain ⟨n', hn', hlater⟩ := hb.later
    obtain rfl : n' = n := Option.some.inj (hn'.symm.trans hn)
    have hle := hlater.version_le
    omega

/-- A refused write of the removal is followed by a pause: it is the first one. -/
theorem Stage.refused {e : StoreError} (hs : l.Tended written s) (hb : l.removal.BasedOn s r n)
    (hv : l.node.version + lost ≤ n.version) (hu : MemoryStore.Updates r s (.error e) s') :
    (l.removal.afterWrite (lost + 1) (.error e)).1 = .pausing (lost + 1) ∧ lost + 1 ≤ written ∧
      s' = s.counted := by
  obtain ⟨⟨n', hn', hlt⟩, hconflict, hs'⟩ := hb.of_refused hs.foreign hs.failures hu
  obtain ⟨n'', hn'', hversion⟩ := hs.node
  obtain rfl : n'' = n' := Option.some.inj (hn''.symm.trans hn')
  have hfew := hs.few
  have hbudget : ¬ l.removal.retry.budget ≤ lost + 1 := by
    have htwo : 2 ≤ l.removal.retry.budget := l.two_le_budget
    omega
  have hdelay : l.removal.retry.delay (lost + 1) ≠ .undefined := l.delay_ne _
  refine ⟨?_, by omega, hs'⟩
  simp only [EditTask.afterWrite, hconflict, if_true, EditTask.afterConflict, if_neg hbudget,
    if_neg hdelay]

/-- A step of the removal brings it nearer to its end, or it is the end, and then it has
succeeded. -/
theorem Stage.turn (h : l.Stage written s phase lost left) (hs : l.Tended written s)
    (hturn : Turn l.removal s phase phase' calls s') :
    (∃ left', left' < left ∧ l.Stage written s' phase' (lost + calls.countP Call.refused) left' ∧
        l.Tended written s' ∧ s'.nodes = s.nodes ∧ calls.countP Call.accepted = 0) ∨
      ∃ outcome, phase' = .finished (.ok outcome) ∧ (∀ k, outcome = .updated k → k ≤ 2) ∧
        l.Cleared written (calls.countP Call.accepted) s' ∧ calls.countP Call.refused = 0 := by
  have hlost := h.lost_le hs
  have hfew := hs.few
  obtain ⟨n₁, hn₁, hversion⟩ := hs.node
  cases h with
  | reading _ =>
    cases hturn with
    | missing hn => exact nomatch hn₁.symm.trans hn
    | corrupt hn hp => exact absurd (EditTask.proposal_eq_error_iff.1 hp) (hs.readable hn _)
    | reflected hn hp =>
      obtain ⟨m, hm, hholds⟩ := EditTask.proposal_eq_none_iff.1 hp
      refine Or.inr ⟨.unchanged, rfl, fun k hk => (nomatch hk), ?_, rfl⟩
      refine hs.asked.cleared (m := m) ?_ (DriverEdit.holds_iff.1 hholds)
      rw [value?_of_get? (s := s.asked) hn]
      exact hm
    | proposed hn hp =>
      have hcurrent := Option.some.inj (hn₁.symm.trans hn)
      refine Or.inl ⟨4 - 3 * lost, by omega, ?_, hs.asked, rfl, rfl⟩
      refine .writing ((EditTask.BasedOn.of_read hs.synced hn hp).grows (.of_nodes_eq rfl)) ?_
      rw [← hcurrent]
      show l.node.version + lost ≤ n₁.version
      omega
  | writing hb hv =>
    cases hturn with
    | written hu =>
      refine Or.inr ⟨.updated (lost + 1), rfl, fun k hk => ?_, hs.dropped hb hu, rfl⟩
      cases hk
      omega
    | refused hu hp =>
      obtain ⟨hpausing, hlt, rfl⟩ := Stage.refused hs hb hv hu
      rw [← hp, hpausing]
      exact Or.inl ⟨3 - 3 * lost, by omega, .pausing hlt, hs.counted, rfl, rfl⟩
  | @pausing lost _ =>
    cases hturn with
    | resumed => exact Or.inl ⟨5 - 3 * (lost + 1), by omega, .reading hlost, hs, rfl, rfl⟩

theorem Stage.left_pos (h : l.Stage written s phase lost left) (hs : l.Tended written s) :
    0 < left := by
  have hlost := h.lost_le hs
  have hfew := hs.few
  cases h with
  | reading | writing | pausing => omega

end Stage

end Lone

end Timeline

end DriverRegistration
