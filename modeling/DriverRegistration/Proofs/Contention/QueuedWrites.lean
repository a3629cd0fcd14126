import DriverRegistration.Proofs.Reconcile.Protocol
import DriverRegistration.Proofs.Reconcile.Turn
import DriverRegistration.Proofs.TextMap
import Mathlib.Data.Nat.Find
import Mathlib.Order.Bounds.Basic
import Mathlib.Tactic.ByContra

/-!
# An edit against a queue of writes of others

Every write that waits in the queue of a store in memory lands just before an update is checked, so
it makes one attempt lose.  `EditTask.attempts_lost` counts what a number of lost attempts leave
behind, by induction on their number.  The attempt after them is the last one: it finds the node
settled or the queue empty, it is the last of the budget, or there is no pause to take
(`EditTask.queued_writes`).
-/

namespace DriverRegistration

/-- The node after others have changed it one after another. -/
def StoredNode.landed (n : StoredNode) (writes : List ForeignWrite) : StoredNode :=
  writes.foldl (fun n write => n.changedBy write) n

theorem StoredNode.version_landed (n : StoredNode) (writes : List ForeignWrite) :
    (n.landed writes).version = n.version + writes.length := by
  induction writes generalizing n with
  | nil => rfl
  | cons write writes ih =>
    have hrest := ih (n.changedBy write)
    have hfirst : (n.changedBy write).version = n.version + 1 := rfl
    rw [List.length_cons, StoredNode.landed, List.foldl_cons]
    exact hrest.trans (by omega)

theorem StoredNode.Synced.landed {name : String} {n : StoredNode} (h : n.Synced name)
    (writes : List ForeignWrite) : (n.landed writes).Synced name := by
  induction writes generalizing n with
  | nil => exact h
  | cons write writes ih => exact ih (h.advanced _)

namespace MemoryStore

/-- The store after so many attempts at a node have lost, each to one of the queued writes. -/
def lost (s : MemoryStore) (name : String) (n : StoredNode) (count : Nat) : MemoryStore :=
  { s with
    nodes := s.nodes.insert name (n.landed (s.foreign.take count))
    foreign := s.foreign.drop count
    gets := s.gets + count
    updates := s.updates + count }

section Lost

variable {s : MemoryStore} {name : String} {n : StoredNode} {write : ForeignWrite}
  {rest : List ForeignWrite}

theorem lost_zero (hn : s.nodes.get? name = some n) : s.lost name n 0 = s := by
  have hnodes : s.nodes.insert name n = s.nodes := TextMap.insert_eq_self hn
  simp only [lost, List.take_zero, List.drop_zero, StoredNode.landed, List.foldl_nil, hnodes,
    Nat.add_zero]

theorem get?_lost (s : MemoryStore) (name : String) (n : StoredNode) (count : Nat) :
    (s.lost name n count).nodes.get? name = some (n.landed (s.foreign.take count)) := by
  rw [lost, TextMap.get?_insert, if_pos rfl]

theorem lost_add (first later : Nat) :
    (s.lost name n first).lost name (n.landed (s.foreign.take first)) later =
      s.lost name n (first + later) := by
  have hlanded : (n.landed (s.foreign.take first)).landed ((s.foreign.drop first).take later) =
      n.landed (s.foreign.take (first + later)) := by
    rw [List.take_add, StoredNode.landed, StoredNode.landed, StoredNode.landed, List.foldl_append]
  simp only [lost, hlanded, List.drop_drop, TextMap.insert_insert, Nat.add_assoc]

theorem get_of_get? (hn : s.nodes.get? name = some n) :
    get name s = (.ok n.record, s.asked) := by
  rw [get_eq, hn]
  rfl

/-- A queued write lands on the node of an update, which is then refused. -/
theorem update_queued {r : NodeRecord} (hq : s.failures = []) (hf : s.foreign = write :: rest)
    (hn : s.nodes.get? r.name = some n) (hsync : n.Synced name)
    (hv : r.version = n.record.version) :
    s.asked.update r = (.error (staleVersion r (n.changedBy write)), s.lost r.name n 1) := by
  have hne : n.record.version ≠ (n.changedBy write).record.version := by
    intro htext
    have hversion : n.version = n.version + 1 := hsync.version_inj (hsync.advanced _) htext
    omega
  simp only [update, asked, hq, landForeign, hf, hn, commit, TextMap.get?_insert, if_true, hv,
    ne_eq, hne, not_false_eq_true, lost, List.drop_succ_cons, List.drop_zero, List.take_succ_cons,
    List.take_zero]
  rfl

end Lost

end MemoryStore

namespace EditTask

open MemoryStore (store)

variable {σ : Type} {t : EditTask} {s : MemoryStore} {n : StoredNode}

/-! ## One attempt -/

theorem cycle_corrupt (attempt : Nat) (hn : s.nodes.get? t.node = some n) {e : CorruptMap}
    (hp : t.proposal n.record = .error e) :
    (t.cycle store attempt s).1.phase = .finished (.error (.corrupt t.node t.key e)) ∧
      (t.cycle store attempt s).1.events =
        [.corrupt t.key (n.record.value? t.key) e] ∧
      (t.cycle store attempt s).2 = s.asked := by
  simp only [cycle, advance, store, MemoryStore.get_of_get? hn, afterRead, hp, and_self]

theorem cycle_reflected (attempt : Nat) (hn : s.nodes.get? t.node = some n)
    (hp : t.proposal n.record = .ok none) :
    (t.cycle store attempt s).1.phase = .finished (.ok .unchanged) ∧
      (t.cycle store attempt s).1.events = [] ∧ (t.cycle store attempt s).2 = s.asked := by
  simp only [cycle, advance, store, MemoryStore.get_of_get? hn, afterRead, hp, and_self]

theorem cycle_proposed (attempt : Nat) (hn : s.nodes.get? t.node = some n) {r : NodeRecord}
    (hp : t.proposal n.record = .ok (some r)) {answer : Except StoreError NodeRecord}
    {s' : MemoryStore} (hu : s.asked.update r = (answer, s')) :
    (t.cycle store attempt s).1.phase = (t.afterWrite attempt answer).1 ∧
      (t.cycle store attempt s).1.events = (t.afterWrite attempt answer).2 ∧
      (t.cycle store attempt s).2 = s' := by
  simp only [cycle, advance, store, MemoryStore.get_of_get? hn, afterRead, hp, hu, Progress.append,
    List.nil_append, and_self]

/-! ## Settled nodes -/

/-- The value of the node does not decode, or the edit finds nothing to change in it. -/
def Settled (t : EditTask) (n : StoredNode) : Prop :=
  ∀ m, DriverMap.decode (n.record.value? t.key) = .ok m → t.edit.apply m = none

theorem proposal_of_apply {m m' : DriverMap}
    (hd : DriverMap.decode (n.record.value? t.key) = .ok m) (ha : t.edit.apply m = some m') :
    t.proposal n.record = .ok (some (t.revised n.record m')) := by
  simp only [proposal, hd, ha, Option.map_some]

theorem proposal_of_noop {m : DriverMap}
    (hd : DriverMap.decode (n.record.value? t.key) = .ok m) (ha : t.edit.apply m = none) :
    t.proposal n.record = .ok none := by
  simp only [proposal, hd, ha, Option.map_none]

theorem exists_proposal (h : ¬ t.Settled n) : ∃ r, t.proposal n.record = .ok (some r) := by
  unfold Settled at h
  push Not at h
  obtain ⟨m, hd, ha⟩ := h
  obtain ⟨m', ha⟩ := Option.ne_none_iff_exists'.1 ha
  exact ⟨_, proposal_of_apply hd ha⟩

/-! ## Lost attempts -/

/-- How often a retry was announced. -/
def Progress.retries (p : Progress) : Nat :=
  p.events.countP fun event => match event with
    | .retrying .. => true
    | _ => false

/-- An attempt at a node that is not settled loses to a queued write. -/
theorem cycle_lost (attempt : Nat) (hn : s.nodes.get? t.node = some n) (hsync : n.Synced t.node)
    (hq : s.failures = []) (hs : ¬ t.Settled n) (hf : 0 < s.foreign.length) :
    ∃ e, e.isConflict = true ∧
      (t.cycle store attempt s).1.phase = (t.afterConflict attempt e).1 ∧
      (t.cycle store attempt s).1.events = (t.afterConflict attempt e).2 ∧
      (t.cycle store attempt s).2 = s.lost t.node n 1 := by
  obtain ⟨write, rest, hf⟩ := List.exists_cons_of_length_pos hf
  obtain ⟨r, hp⟩ := exists_proposal hs
  have hname : r.name = t.node := name_of_proposal hsync hp
  have hu := MemoryStore.update_queued hq hf (hname.symm ▸ hn) hsync (version_of_proposal hp)
  rw [hname] at hu
  exact ⟨_, rfl, cycle_proposed attempt hn hp hu⟩

theorem attempts_of_pausing {σ : Type} {store : NodeStore σ} {s : σ} {left attempt : Nat}
    (h : (t.cycle store attempt s).1.phase = .pausing attempt) :
    attempts store t (left + 1) attempt s =
      ((t.cycle store attempt s).1.append
          (attempts store t left (attempt + 1) (t.cycle store attempt s).2).1,
        (attempts store t left (attempt + 1) (t.cycle store attempt s).2).2) := by
  simp only [attempts, h]

theorem attempts_of_ended {σ : Type} {store : NodeStore σ} {s : σ} {left attempt : Nat}
    (h : ∀ attempt', (t.cycle store attempt s).1.phase ≠ .pausing attempt') :
    attempts store t (left + 1) attempt s = t.cycle store attempt s := by
  unfold attempts
  dsimp only
  cases hphase : (t.cycle store attempt s).1.phase with
  | pausing attempt' => exact absurd hphase (h attempt')
  | reading | writing | finished | stuck => rfl

theorem Progress.retries_append (p q : Progress) : (p.append q).retries = p.retries + q.retries :=
  List.countP_append

/-- As long as the node is not settled, writes are queued and pauses are defined, every attempt
loses, announces a retry and is followed by another one. -/
theorem attempts_lost {count attempt : Nat} (left : Nat) (hn : s.nodes.get? t.node = some n)
    (hsync : n.Synced t.node) (hq : s.failures = []) (hcount : count ≤ s.foreign.length)
    (hopen : ∀ i < count, ¬ t.Settled (n.landed (s.foreign.take i)))
    (hbudget : attempt + count ≤ t.retry.budget)
    (hdelay : ∀ i < count, t.retry.delay (attempt + i) ≠ .undefined) :
    ∃ p : Progress, p.retries = count ∧
      attempts store t (count + left) attempt s =
        (p.append (attempts store t left (attempt + count) (s.lost t.node n count)).1,
          (attempts store t left (attempt + count) (s.lost t.node n count)).2) := by
  induction count generalizing s n attempt with
  | zero =>
    refine ⟨{ phase := .reading attempt }, rfl, ?_⟩
    rw [MemoryStore.lost_zero hn, Nat.zero_add, Nat.add_zero]
    rfl
  | succ count ih =>
    have hfirst := hopen 0 (Nat.succ_pos count)
    obtain ⟨e, he, hphase, hevents, hstore⟩ :=
      cycle_lost attempt hn hsync hq hfirst (by omega)
    have hconflict : t.afterConflict attempt e =
        (.pausing attempt, [.retrying attempt (t.retry.fixedDelay? attempt) e]) := by
      have hpause := hdelay 0 (Nat.succ_pos count)
      rw [Nat.add_zero] at hpause
      rw [afterConflict, if_neg (by omega), if_neg hpause]
    rw [hconflict] at hphase hevents
    obtain ⟨write, rest, hf⟩ := List.exists_cons_of_length_pos (l := s.foreign) (by omega)
    have hlanded := s.get?_lost t.node n 1
    have hnext : n.landed (s.foreign.take 1) = n.changedBy write := by
      rw [hf]
      rfl
    rw [hnext] at hlanded
    have hrest : (s.lost t.node n 1).foreign = rest := by
      rw [MemoryStore.lost, hf]
      rfl
    rw [hf, List.length_cons] at hcount
    obtain ⟨p, hp, hattempts⟩ := @ih (s.lost t.node n 1) (n.changedBy write) (attempt + 1) hlanded
      (hsync.advanced _) hq
      (by rw [hrest]; omega)
      (fun i hi => by
        have hlater := hopen (i + 1) (Nat.succ_lt_succ hi)
        rw [hf] at hlater
        rwa [hrest])
      (by omega)
      (fun i hi => by
        have hlater := hdelay (i + 1) (Nat.succ_lt_succ hi)
        rwa [Nat.add_right_comm, Nat.add_assoc])
    refine ⟨(t.cycle store attempt s).1.append p, ?_, ?_⟩
    · rw [Progress.retries_append, hp, Progress.retries, hevents]
      exact Nat.add_comm 1 count
    · rw [Nat.add_right_comm, attempts_of_pausing hphase, hstore, hattempts, ← hnext,
        MemoryStore.lost_add, Nat.add_comm 1 count, Nat.add_right_comm attempt 1 count]
      simp only [Progress.append, List.append_assoc]
      rfl

/-- The attempt after the lost ones is the last one. -/
theorem run_of_lost (count : Nat) (hn : s.nodes.get? t.node = some n) (hsync : n.Synced t.node)
    (hq : s.failures = []) (hcount : count ≤ s.foreign.length)
    (hopen : ∀ i < count, ¬ t.Settled (n.landed (s.foreign.take i)))
    (hbudget : count < t.retry.budget) (hdelay : ∀ i < count, t.retry.delay (i + 1) ≠ .undefined)
    (hlast : ∀ attempt,
      (t.cycle store (count + 1) (s.lost t.node n count)).1.phase ≠ .pausing attempt) :
    (t.run store s).1.phase = (t.cycle store (count + 1) (s.lost t.node n count)).1.phase ∧
      (t.run store s).1.retries =
        count + (t.cycle store (count + 1) (s.lost t.node n count)).1.retries ∧
      (t.run store s).2 = (t.cycle store (count + 1) (s.lost t.node n count)).2 := by
  have hdelay' : ∀ i < count, t.retry.delay (1 + i) ≠ .undefined := by
    intro i hi
    rw [Nat.add_comm]
    exact hdelay i hi
  obtain ⟨p, hp, hattempts⟩ := attempts_lost (t.retry.budget - count - 1 + 1) hn hsync hq hcount
    hopen (by omega) hdelay'
  rw [show count + (t.retry.budget - count - 1 + 1) = t.retry.budget by omega, Nat.add_comm 1 count,
    attempts_of_ended hlast] at hattempts
  rw [run, hattempts, Progress.retries_append, hp]
  exact ⟨rfl, rfl, rfl⟩

/-! ## The last attempt -/

/-- All attempts of the budget have lost. -/
structure RunsOut (t : EditTask) (s : MemoryStore) (n : StoredNode) : Prop where
  phase : (t.run store s).1.phase =
    .finished (.error (.exhausted t.node (max t.retry.attempts 1)))
  retries : (t.run store s).1.retries = max t.retry.attempts 1 - 1
  store : (t.run store s).2 = s.lost t.node n (max t.retry.attempts 1)

/-- After so many lost attempts, the next one decides on the node as they have left it. -/
structure Decides (t : EditTask) (s : MemoryStore) (n : StoredNode) (lost : Nat) : Prop where
  retries : (t.run store s).1.retries = lost
  corrupt : ∀ e, DriverMap.decode
      ((n.landed (s.foreign.take lost)).record.value? t.key) = .error e →
    (t.run store s).1.phase = .finished (.error (.corrupt t.node t.key e)) ∧
      (t.run store s).2 = (s.lost t.node n lost).asked
  unchanged : ∀ m, DriverMap.decode
      ((n.landed (s.foreign.take lost)).record.value? t.key) = .ok m →
    t.edit.apply m = none →
    (t.run store s).1.phase = .finished (.ok .unchanged) ∧
      (t.run store s).2 = (s.lost t.node n lost).asked
  updated : ∀ m m', DriverMap.decode
      ((n.landed (s.foreign.take lost)).record.value? t.key) = .ok m →
    t.edit.apply m = some m' →
    lost = s.foreign.length ∧
      (t.run store s).1.phase = .finished (.ok (.updated (s.foreign.length + 1))) ∧
      (t.run store s).2 = { s with
        nodes := s.nodes.insert t.node
          ⟨⟨t.node,
              some (((n.landed s.foreign).record.annotations.getD .empty).insert t.key m'.encode),
              some (toString (n.version + (s.foreign.length + 1)))⟩,
            n.version + (s.foreign.length + 1)⟩
        foreign := []
        gets := s.gets + (s.foreign.length + 1)
        updates := s.updates + (s.foreign.length + 1)
        writes := s.writes + 1 }

section Last

variable {count : Nat}

/-- A node that is not settled and that no write of another waits for is written. -/
theorem cycle_unqueued (attempt : Nat) (hkey : t.key ≠ "") (hsync : n.Synced t.node)
    (hq : s.failures = []) {m m' : DriverMap}
    (hd : DriverMap.decode ((n.landed s.foreign).record.value? t.key) = .ok m)
    (ha : t.edit.apply m = some m') :
    (t.cycle store attempt (s.lost t.node n s.foreign.length)).1.phase =
        .finished (.ok (.updated attempt)) ∧
      (t.cycle store attempt (s.lost t.node n s.foreign.length)).1.events = [] ∧
      (t.cycle store attempt (s.lost t.node n s.foreign.length)).2 = { s with
        nodes := s.nodes.insert t.node
          ⟨⟨t.node,
              some (((n.landed s.foreign).record.annotations.getD .empty).insert t.key m'.encode),
              some (toString (n.version + (s.foreign.length + 1)))⟩,
            n.version + (s.foreign.length + 1)⟩
        foreign := []
        gets := s.gets + (s.foreign.length + 1)
        updates := s.updates + (s.foreign.length + 1)
        writes := s.writes + 1 } := by
  have hlanded := s.get?_lost t.node n s.foreign.length
  rw [List.take_length] at hlanded
  have hforeign : (s.lost t.node n s.foreign.length).asked.foreign = [] := List.drop_length
  have hlandedSync : (n.landed s.foreign).Synced t.node := hsync.landed s.foreign
  have hname : (t.revised (n.landed s.foreign).record m').name = t.node := hlandedSync.name_eq
  have hp := proposal_of_apply hd ha
  have hu := MemoryStore.update_current (r := t.revised (n.landed s.foreign).record m')
    (s := (s.lost t.node n s.foreign.length).asked) hq hforeign (by rw [hname]; exact hlanded) rfl
  obtain ⟨hphase, hevents, hstore⟩ := cycle_proposed attempt hlanded hp hu
  refine ⟨hphase, hevents, hstore.trans ?_⟩
  have hversion : (n.landed s.foreign).version + 1 = n.version + (s.foreign.length + 1) := by
    rw [StoredNode.version_landed, Nat.add_assoc]
  simp only [revised, rebind, if_neg hkey, hlandedSync.name_eq, hlandedSync.advanced_eq,
    MemoryStore.written, MemoryStore.counted, MemoryStore.asked, MemoryStore.lost,
    TextMap.insert_insert, hversion, List.drop_length, Nat.add_assoc]

section Ends

variable (hn : s.nodes.get? t.node = some n) (hsync : n.Synced t.node) (hq : s.failures = [])
  (hopen : ∀ i < count, ¬ t.Settled (n.landed (s.foreign.take i)))
  (hdelay : ∀ i < count, 1 ≤ i → t.retry.delay i ≠ .undefined)
include hn hsync hq hopen hdelay

/-- An attempt that loses after others have lost. -/
theorem run_of_last_lost (hpos : 0 < count) (hcount : count ≤ s.foreign.length)
    (hbudget : count ≤ t.retry.budget)
    (hlast : ∀ e, e.isConflict = true → ∀ i, (t.afterConflict count e).1 ≠ .pausing i) :
    ∃ e, e.isConflict = true ∧ (t.run store s).1.phase = (t.afterConflict count e).1 ∧
      (t.run store s).1.retries =
        count - 1 + (Progress.retries ⟨.stuck, [], (t.afterConflict count e).2⟩) ∧
      (t.run store s).2 = s.lost t.node n count := by
  obtain ⟨before, rfl⟩ : ∃ before, count = before + 1 := ⟨count - 1, by omega⟩
  have hlanded := s.get?_lost t.node n before
  have hwaiting : 0 < (s.lost t.node n before).foreign.length := by
    show 0 < (s.foreign.drop before).length
    rw [List.length_drop]
    omega
  obtain ⟨e, he, hphase, hevents, hstore⟩ := cycle_lost (before + 1) hlanded (hsync.landed _) hq
    (hopen before (Nat.lt_succ_self before)) hwaiting
  rw [MemoryStore.lost_add] at hstore
  obtain ⟨hrunPhase, hretries, hrunStore⟩ := run_of_lost before hn hsync hq (by omega)
    (fun i hi => hopen i (by omega)) (by omega) (fun i hi => hdelay (i + 1) (by omega) (by omega))
    (fun attempt => by rw [hphase]; exact hlast e he attempt)
  refine ⟨e, he, hrunPhase.trans hphase, ?_, hrunStore.trans hstore⟩
  rw [hretries, Progress.retries, Progress.retries, hevents, Nat.add_sub_cancel]

/-- The budget runs out where so many writes are queued before the node is settled. -/
theorem runsOut_of_lost (hcount : count ≤ s.foreign.length) (hbudget : t.retry.budget = count) :
    t.RunsOut s n := by
  have hpos : 1 ≤ t.retry.budget := Nat.le_max_right _ _
  have hmax : max t.retry.attempts 1 = count := hbudget
  have hexhausted (e : StoreError) : t.afterConflict count e =
      (.finished (.error (.exhausted t.node t.retry.budget)), [.exhausted t.retry.budget]) :=
    if_pos hbudget.le
  obtain ⟨e, -, hphase, hretries, hstore⟩ := run_of_last_lost hn hsync hq hopen hdelay (by omega)
    hcount hbudget.ge (fun e _ i => by rw [hexhausted]; exact Phase.noConfusion)
  rw [hexhausted] at hphase hretries
  rw [hbudget] at hphase
  refine ⟨hmax ▸ hphase, hmax ▸ hretries, hmax ▸ hstore⟩

/-- A pause that is not defined is the end. -/
theorem stuck_of_lost (hpos : 0 < count) (hcount : count ≤ s.foreign.length)
    (hbudget : count < t.retry.budget) (hundefined : t.retry.delay count = .undefined) :
    (t.run store s).1.phase = .stuck := by
  have hstuck (e : StoreError) : t.afterConflict count e = (.stuck, []) := by
    rw [afterConflict, if_neg (Nat.not_le_of_lt hbudget), if_pos hundefined]
  obtain ⟨e, -, hphase, -⟩ := run_of_last_lost hn hsync hq hopen hdelay hpos hcount hbudget.le
    (fun e _ i => by rw [hstuck]; exact Phase.noConfusion)
  rw [hphase, hstuck]

end Ends

/-- An attempt that nothing comes between decides. -/
theorem decides_of_lost (hkey : t.key ≠ "") (hn : s.nodes.get? t.node = some n)
    (hsync : n.Synced t.node) (hq : s.failures = []) (hcount : count ≤ s.foreign.length)
    (hopen : ∀ i < count, ¬ t.Settled (n.landed (s.foreign.take i)))
    (hend : count = s.foreign.length ∨ t.Settled (n.landed (s.foreign.take count)))
    (hbudget : count < t.retry.budget)
    (hdelay : ∀ i ≤ count, 1 ≤ i → t.retry.delay i ≠ .undefined) : t.Decides s n count := by
  have hlanded := s.get?_lost t.node n count
  have hends {result : EditResult} {events : List Event} {s' : MemoryStore}
      (hquiet : Progress.retries ⟨.stuck, [], events⟩ = 0)
      (hcycle : (t.cycle store (count + 1) (s.lost t.node n count)).1.phase = .finished result ∧
        (t.cycle store (count + 1) (s.lost t.node n count)).1.events = events ∧
        (t.cycle store (count + 1) (s.lost t.node n count)).2 = s') :
      (t.run store s).1.retries = count ∧ (t.run store s).1.phase = .finished result ∧
        (t.run store s).2 = s' := by
    obtain ⟨hphase, rfl, hstore⟩ := hcycle
    obtain ⟨hrunPhase, hretries, hrunStore⟩ := run_of_lost count hn hsync hq hcount hopen hbudget
      (fun i hi => hdelay (i + 1) (by omega) (by omega))
      (fun i => by rw [hphase]; exact Phase.noConfusion)
    exact ⟨hretries.trans (congrArg (count + ·) hquiet), hrunPhase.trans hphase,
      hrunStore.trans hstore⟩
  cases hd : DriverMap.decode
      ((n.landed (s.foreign.take count)).record.value? t.key) with
  | error e =>
    have hp : t.proposal (n.landed (s.foreign.take count)).record = .error e := by
      rw [proposal, hd]
    obtain ⟨hretries, hrun⟩ := hends rfl (cycle_corrupt (count + 1) hlanded hp)
    refine ⟨hretries, fun e' he' => ?_, fun m hm => ?_, fun m m' hm => ?_⟩
    · obtain rfl : e = e' := Except.error.inj (hd.symm.trans he')
      exact hrun
    · exact nomatch hd.symm.trans hm
    · exact nomatch hd.symm.trans hm
  | ok m =>
    have hread {m₁ : DriverMap} (hm : DriverMap.decode
        ((n.landed (s.foreign.take count)).record.value? t.key) = .ok m₁) : m = m₁ :=
      Except.ok.inj (hd.symm.trans hm)
    cases ha : t.edit.apply m with
    | none =>
      obtain ⟨hretries, hrun⟩ :=
        hends rfl (cycle_reflected (count + 1) hlanded (proposal_of_noop hd ha))
      refine ⟨hretries, fun e he => ?_, fun m₁ _ _ => hrun, fun m₁ m' hm ha' => ?_⟩
      · exact nomatch hd.symm.trans he
      · obtain rfl := hread hm
        exact nomatch ha.symm.trans ha'
    | some m' =>
      -- The node is not settled, so it is the queue that has come to its end.
      obtain rfl : count = s.foreign.length := by
        refine hend.resolve_right fun hsettled => ?_
        exact nomatch (hsettled m hd).symm.trans ha
      have hlast := hd
      rw [List.take_length] at hlast
      obtain ⟨hretries, hrun⟩ :=
        hends rfl (cycle_unqueued (s.foreign.length + 1) hkey hsync hq hlast ha)
      refine ⟨hretries, fun e he => ?_, fun m₁ hm ha' => ?_, fun m₁ m₂ hm ha' => ?_⟩
      · exact nomatch hd.symm.trans he
      · obtain rfl := hread hm
        exact nomatch ha.symm.trans ha'
      · obtain rfl := hread hm
        obtain rfl : m' = m₂ := Option.some.inj (ha.symm.trans ha')
        exact ⟨rfl, hrun⟩

end Last

/-! ## The law -/

/-- An edit loses an attempt to every queued write, up to the first number `j` of them after which
the node is settled or the queue is empty.  A budget that is not greater than `j` runs out, and
otherwise the attempt after `j` lost ones decides. -/
theorem queued_writes (hkey : t.key ≠ "") (hn : s.nodes.get? t.node = some n)
    (hsync : n.Synced t.node) (hq : s.failures = []) :
    ∃ j, IsLeast {i | i = s.foreign.length ∨ t.Settled (n.landed (s.foreign.take i))} j ∧
      ((∀ i, 1 ≤ i → i ≤ j → i < max t.retry.attempts 1 → t.retry.delay i ≠ .undefined) →
        (max t.retry.attempts 1 ≤ j → t.RunsOut s n) ∧
          (j < max t.retry.attempts 1 → t.Decides s n j)) ∧
      ((∃ i, 1 ≤ i ∧ i ≤ j ∧ i < max t.retry.attempts 1 ∧ t.retry.delay i = .undefined) →
        (t.run store s).1.phase = .stuck) := by
  classical
  have hex : ∃ j, j = s.foreign.length ∨ t.Settled (n.landed (s.foreign.take j)) :=
    ⟨s.foreign.length, Or.inl rfl⟩
  have hbudget : t.retry.budget = max t.retry.attempts 1 := rfl
  have hpos : 1 ≤ t.retry.budget := Nat.le_max_right _ _
  obtain ⟨j, hleast⟩ : ∃ j,
      IsLeast {i | i = s.foreign.length ∨ t.Settled (n.landed (s.foreign.take i))} j :=
    ⟨Nat.find hex, Nat.find_spec hex, fun i hi => Nat.find_min' hex hi⟩
  have hlength : j ≤ s.foreign.length := hleast.2 (Or.inl rfl)
  have hopen (i : Nat) (hi : i < j) : ¬ t.Settled (n.landed (s.foreign.take i)) :=
    fun hsettled => absurd (hleast.2 (Or.inr hsettled)) (Nat.not_le_of_lt hi)
  refine ⟨j, hleast, fun hdelay => ⟨fun hout => ?_, fun hin => ?_⟩, fun hundefined => ?_⟩
  · exact runsOut_of_lost hn hsync hq (fun i hi => hopen i (by omega))
      (fun i hi hi' => hdelay i hi' (by omega) hi) (hout.trans hlength) hbudget
  · exact decides_of_lost hkey hn hsync hq hlength hopen hleast.1 hin
      (fun i hi hi' => hdelay i hi' hi (by omega))
  · obtain ⟨hi, hij, hib, hdelay⟩ := Nat.find_spec hundefined
    refine stuck_of_lost hn hsync hq (fun i hi => hopen i (by omega)) (fun i hlt hi' h => ?_) hi
      (hij.trans hlength) hib hdelay
    exact Nat.find_min hundefined hlt ⟨hi', by omega, by omega, h⟩

/-- A node without annotations, where another writer is about to spoil the driver map. -/
def spoiledNode : MemoryStore :=
  (MemoryStore.empty.insertNode "n" none).interleave fun m => m.insert standardKey "x"

/-- The first attempt loses, and the second one reads what has become of the map. -/
theorem queued_writes_of_spoiled : oneRecording.key ≠ "" ∧
    spoiledNode.nodes.get? "n" = some ⟨⟨"n", none, some "1"⟩, 1⟩ ∧
    StoredNode.Synced "n" ⟨⟨"n", none, some "1"⟩, 1⟩ ∧ spoiledNode.failures = [] ∧
    (∃ e, (oneRecording.run store spoiledNode).1.phase =
      .finished (.error (.corrupt "n" standardKey e))) ∧
    (oneRecording.run store spoiledNode).1.retries = 1 ∧
    (oneRecording.run store spoiledNode).2.gets = 2 ∧
    (oneRecording.run store spoiledNode).2.updates = 1 := by
  have hkey : oneRecording.key ≠ "" := by decide
  have hn : spoiledNode.nodes.get? "n" = some ⟨⟨"n", none, some "1"⟩, 1⟩ := rfl
  have hsync : StoredNode.Synced "n" ⟨⟨"n", none, some "1"⟩, 1⟩ := ⟨rfl, rfl⟩
  obtain ⟨j, hleast, hrun, -⟩ := queued_writes (t := oneRecording) hkey hn hsync rfl
  have hopen : ¬ oneRecording.Settled (StoredNode.landed ⟨⟨"n", none, some "1"⟩, 1⟩ []) :=
    fun hsettled => nomatch hsettled .empty rfl
  obtain rfl : j = 1 := by
    have hle : j ≤ 1 := hleast.2 (Or.inl rfl)
    refine Nat.le_antisymm hle (Nat.pos_of_ne_zero fun hzero => ?_)
    subst hzero
    rcases hleast.1 with hempty | hsettled
    · cases hempty
    · exact hopen hsettled
  have hdecides := (hrun fun i _ _ _ => delay_standard_ne_undefined i).2 (by decide)
  have hcorrupt : ∃ e, DriverMap.decode (some "x") = .error e := ⟨_, rfl⟩
  obtain ⟨e, he⟩ := hcorrupt
  obtain ⟨hphase, hstore⟩ := hdecides.corrupt e he
  refine ⟨hkey, hn, hsync, rfl, ⟨e, hphase⟩, hdecides.retries, ?_, ?_⟩
  · rw [hstore]
    rfl
  · rw [hstore]
    rfl

end EditTask

end DriverRegistration
