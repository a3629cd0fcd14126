import DriverRegistration.Proofs.Reconcile.Protocol
import DriverRegistration.Reconcile.Sync
import Mathlib.Data.List.Basic

/-!
# The pace of periodic edits

`Sync.loop` makes the edit that records a driver again and again, against any store and with cycles
that take any time.  Every edit comes to a result (`exists_results`), so its cycles are those of a
schedule that knows the results in advance (`loopFrom_eq`), and everything about times is a
statement about deadlines:

* a deadline lies a period after the one before it, at least (`deadline_add_le_nextDeadline`);
* it lies a period after the last start, less the grace (`start_add_le_nextDeadline`).

By induction on the cycles, any two of them keep their distance less one grace (`start_add_mul_le`),
and cycles that are no longer than the period start at its multiples (`start_eq_of_short`).
-/

namespace DriverRegistration.Sync

variable {σ : Type}

/-! ## Deadlines -/

theorem deadline_add_le_nextDeadline (period : Nat) {deadline start : Nat}
    (hstart : deadline ≤ start) :
    deadline + period ≤ nextDeadline period deadline start := by
  unfold nextDeadline
  by_cases hlate : deadline + grace < start
  · rw [if_pos hlate]
    exact Nat.add_le_add_right hstart period
  · exact Nat.le_of_eq (if_neg hlate).symm

theorem start_add_le_nextDeadline (period deadline start : Nat) :
    start + period ≤ nextDeadline period deadline start + grace := by
  unfold nextDeadline
  by_cases hlate : deadline + grace < start
  · rw [if_pos hlate]
    exact Nat.le_add_right _ _
  · rw [if_neg hlate]
    omega

theorem nextDeadline_of_punctual (period deadline : Nat) :
    nextDeadline period deadline deadline = deadline + period := by
  unfold nextDeadline
  rw [if_neg]
  omega

/-! ## Cycles -/

/-- A number of cycles, where the `i`-th one has the given duration and result.  The next deadline
and the end of the cycle before are given. -/
def cyclesFrom (period : Nat) (node driver : String) (cycle : Nat → Nat × EditResult) :
    Nat → Nat → Nat → Nat → List Cycle
  | 0, _, _, _ => []
  | count + 1, i, deadline, free =>
    let start := Nat.max deadline free
    let finish := start + (cycle i).1
    ⟨start, finish, report node driver (cycle i).2⟩ ::
      cyclesFrom period node driver cycle count (i + 1) (nextDeadline period deadline start) finish

section Cycles

variable {period : Nat} {node driver : String} {cycle : Nat → Nat × EditResult}
  {count i deadline free : Nat}

theorem length_cyclesFrom :
    (cyclesFrom period node driver cycle count i deadline free).length = count := by
  induction count generalizing i deadline free with
  | zero => rfl
  | succ count ih => simp only [cyclesFrom, List.length_cons, ih]

/-- A cycle takes its time and reports what it has come to. -/
theorem finish_and_events {j : Nat} {c : Cycle}
    (hc : (cyclesFrom period node driver cycle count i deadline free)[j]? = some c) :
    c.finish = c.start + (cycle (i + j)).1 ∧ c.events = report node driver (cycle (i + j)).2 := by
  induction count generalizing i deadline free j with
  | zero => cases hc
  | succ count ih =>
    cases j with
    | zero =>
      cases hc
      exact ⟨rfl, rfl⟩
    | succ j =>
      have hrest := ih (i := i + 1) hc
      rwa [Nat.add_right_comm] at hrest

/-- A cycle starts at the first deadline and as many periods after it, at the earliest. -/
theorem deadline_add_mul_le {j : Nat} {c : Cycle}
    (hc : (cyclesFrom period node driver cycle count i deadline free)[j]? = some c) :
    deadline + j * period ≤ c.start := by
  induction count generalizing i deadline free j with
  | zero => cases hc
  | succ count ih =>
    have hstart : deadline ≤ Nat.max deadline free := Nat.le_max_left _ _
    cases j with
    | zero =>
      cases hc
      rwa [Nat.zero_mul]
    | succ j =>
      have hrest := ih hc
      have hnext := deadline_add_le_nextDeadline period hstart
      have hmul := Nat.add_one_mul j period
      omega

/-- A slow cycle is not made up for: all later cycles keep their distance from it, less the
grace. -/
theorem start_add_mul_le {j k : Nat} {c c' : Cycle}
    (hc : (cyclesFrom period node driver cycle count i deadline free)[j]? = some c)
    (hc' : (cyclesFrom period node driver cycle count i deadline free)[k]? = some c')
    (hjk : j < k) :
    c.start + (k - j) * period ≤ c'.start + grace := by
  induction count generalizing i deadline free j k with
  | zero => cases hc
  | succ count ih =>
    obtain ⟨k, rfl⟩ : ∃ k', k = k' + 1 := ⟨k - 1, by omega⟩
    cases j with
    | zero =>
      cases hc
      have hfirst := start_add_le_nextDeadline period deadline (Nat.max deadline free)
      rw [cyclesFrom, List.getElem?_cons_succ] at hc'
      have hrest := deadline_add_mul_le hc'
      have hmul := Nat.add_one_mul k period
      simp only [Nat.sub_zero]
      omega
    | succ j =>
      have hrest := ih hc hc' (by omega)
      rwa [Nat.add_sub_add_right]

theorem finish_le_start {j : Nat} {c c' : Cycle}
    (hc : (cyclesFrom period node driver cycle count i deadline free)[j]? = some c)
    (hc' : (cyclesFrom period node driver cycle count i deadline free)[j + 1]? = some c') :
    c.finish ≤ c'.start := by
  induction count generalizing i deadline free j with
  | zero => cases hc
  | succ count ih =>
    cases j with
    | zero =>
      cases hc
      cases count with
      | zero => cases hc'
      | succ count =>
        cases hc'
        exact Nat.le_max_right _ _
    | succ j => exact ih hc hc'

/-- As long as no cycle takes longer than the period, the next one is on time. -/
theorem start_eq_of_short (hfree : free ≤ deadline) {j : Nat} {c : Cycle}
    (hc : (cyclesFrom period node driver cycle count i deadline free)[j]? = some c)
    (hshort : ∀ k < j, (cycle (i + k)).1 ≤ period) : c.start = deadline + j * period := by
  induction count generalizing i deadline free j with
  | zero => cases hc
  | succ count ih =>
    have hpunctual : Nat.max deadline free = deadline := Nat.max_eq_left hfree
    cases j with
    | zero =>
      cases hc
      rw [hpunctual, Nat.zero_mul, Nat.add_zero]
    | succ j =>
      rw [cyclesFrom, hpunctual, nextDeadline_of_punctual, List.getElem?_cons_succ] at hc
      have hfirst := hshort 0 (Nat.succ_pos j)
      have hrest : c.start = deadline + period + j * period := by
        apply ih (by simpa using hfirst) hc
        intro k hk
        have hlater := hshort (k + 1) (Nat.succ_lt_succ hk)
        rwa [Nat.add_right_comm, Nat.add_assoc]
      have hmul := Nat.add_one_mul j period
      omega

end Cycles

/-! ## The loop -/

section Loop

variable {store : NodeStore σ} {t : EditTask} (hdelay : ∀ n, t.retry.delay n ≠ .undefined)

include hdelay

/-- An edit comes to an end against any store. -/
theorem exists_result (store : NodeStore σ) (s : σ) :
    ∃ result, (t.run store s).1.phase = .finished result := by
  obtain ⟨as, a, result, s', -, -, hrun, -⟩ := t.course_protocol hdelay store s
  exact ⟨result, by rw [hrun]⟩

/-- What the edits of the cycles come to, whatever the store answers: a result each, with which the
loop goes on. -/
theorem exists_results (store : NodeStore σ) (s : σ) :
    ∃ results : Nat → EditResult,
      ∀ i, (t.run store (storeAfter store t i s)).1.phase = .finished (results i) :=
  ⟨fun i => (exists_result hdelay store (storeAfter store t i s)).choose,
    fun i => (exists_result hdelay store (storeAfter store t i s)).choose_spec⟩

end Loop

section Rounds

variable {store : NodeStore σ} {t : EditTask} {results : Nat → EditResult} {s : σ}

/-- The cycles of the loop are those of its results. -/
theorem loopFrom_eq {i : Nat} (count deadline free period : Nat) (duration : Nat → Nat)
    (hresults : ∀ j, (t.run store (storeAfter store t j s)).1.phase = .finished (results (i + j))) :
    (loopFrom store t period duration count i deadline free s).map Round.cycle =
        cyclesFrom period t.node t.edit.driver (fun i => (duration i, results i)) count i deadline
          free ∧
      ∀ j round, (loopFrom store t period duration count i deadline free s)[j]? = some round →
        round.progress = (t.run store (storeAfter store t j s)).1 := by
  induction count generalizing i deadline free s with
  | zero => exact ⟨rfl, fun j round h => nomatch h⟩
  | succ count ih =>
    have hfirst : (t.run store s).1.phase = .finished (results i) := hresults 0
    have hlater (j : Nat) : (t.run store (storeAfter store t j (t.run store s).2)).1.phase =
        .finished (results (i + 1 + j)) := by
      rw [Nat.add_right_comm]
      exact hresults (j + 1)
    obtain ⟨hcycles, hprogress⟩ := ih (nextDeadline period deadline (Nat.max deadline free))
      (Nat.max deadline free + duration i) hlater
    simp only [loopFrom, hfirst]
    constructor
    · rw [List.map_cons, hcycles]
      rfl
    · intro j round hround
      cases j with
      | zero =>
        cases hround
        rfl
      | succ j => exact hprogress j round hround

end Rounds

/-! ## What is reported -/

/-- The message of a cycle that has failed. -/
def failureMessage : String := "failed to sync node annotation"

/-- How often a cycle of some result reports its failure. -/
def failures : EditResult → Nat
  | .ok _ => 0
  | .error _ => 1

section Reports

variable {store : NodeStore σ} {t : EditTask} {s : σ} {event : Event}

theorem message_ne_of_advance {phase : EditTask.Phase}
    (h : event ∈ (t.advance store phase s).1.events) : event.message ≠ failureMessage := by
  have hread (attempt : Nat) (answer : Except StoreError NodeRecord)
      (hevent : event ∈ (t.afterRead attempt answer).2) : event.message ≠ failureMessage := by
    unfold EditTask.afterRead at hevent
    split at hevent
    · simp_all [Event.message, failureMessage]
    · split at hevent
      all_goals simp_all [Event.message, failureMessage]
  have hwrite (attempt : Nat) (answer : Except StoreError NodeRecord)
      (hevent : event ∈ (t.afterWrite attempt answer).2) : event.message ≠ failureMessage := by
    unfold EditTask.afterWrite EditTask.afterConflict at hevent
    split at hevent
    · simp at hevent
    · split_ifs at hevent
      all_goals simp_all [Event.message, failureMessage]
  cases phase with
  | reading attempt => exact hread attempt _ h
  | writing attempt r => exact hwrite attempt _ h
  | pausing | finished | stuck => exact absurd h List.not_mem_nil

/-- The edit itself reports other things than the failure of the cycle. -/
theorem message_ne_of_run (h : event ∈ (t.run store s).1.events) :
    event.message ≠ failureMessage := by
  have hcourse (steps : Nat) (phase : EditTask.Phase) (s : σ)
      (hevent : event ∈ ((t.course store steps phase s).1.filterMap EditTask.Act.event?)) :
      event.message ≠ failureMessage := by
    induction steps generalizing phase s with
    | zero => exact absurd hevent List.not_mem_nil
    | succ steps ih =>
      rw [EditTask.course, List.filterMap_append, List.mem_append,
        (EditTask.filterMap_stepActs phase _).2] at hevent
      rcases hevent with hfirst | hrest
      · exact message_ne_of_advance hfirst
      · exact ih _ _ hrest
  rw [EditTask.run_eq_course] at h
  exact hcourse _ _ _ h

/-- A cycle that has failed reports this once. -/
theorem countP_failures (node driver : String) (result : EditResult) :
    ((t.run store s).1.events ++ report node driver result).countP
      (fun event => event.message = failureMessage) = failures result := by
  have hedit :
      (t.run store s).1.events.countP (fun event => event.message = failureMessage) = 0 := by
    apply List.countP_eq_zero.2
    intro event hevent hmessage
    exact message_ne_of_run hevent (of_decide_eq_true hmessage)
  rw [List.countP_append, hedit]
  cases result with
  | ok outcome => rfl
  | error e => rfl

end Reports

/-! ## The pace -/

/-- The loop goes on whatever its cycles come to, and reports each one that has failed.  Any two
cycles keep their distance in periods, less five milliseconds, and as long as no cycle takes longer
than the period, each of them starts at a multiple of it. -/
theorem loop_keeps_pace {interval : Duration} (hinterval : 1000000 ≤ interval.nanos)
    {r : Reconciler} (hdelay : ∀ n, r.retry.delay n ≠ .undefined) (node : String)
    (identity : DriverIdentity) (store : NodeStore σ) (s : σ) (duration : Nat → Nat)
    (count start : Nat) {rounds : List Round}
    (hrounds : rounds = loop store (recording r node identity) interval duration count start s) :
    rounds.length = count ∧
    (∀ i round, rounds[i]? = some round → ∃ result,
      round.progress =
        ((recording r node identity).run store
          (storeAfter store (recording r node identity) i s)).1 ∧
      round.progress.phase = .finished result ∧
      round.cycle.finish = round.cycle.start + duration i ∧
      round.cycle.events = (match result with
        | .ok _ => []
        | .error e => [.syncFailed node identity.name e]) ∧
      (round.progress.events ++ round.cycle.events).countP
        (fun event => event.message = failureMessage) = failures result) ∧
    (∀ round, rounds[0]? = some round → round.cycle.start = start) ∧
    (∀ i round next, rounds[i]? = some round → rounds[i + 1]? = some next →
      round.cycle.finish ≤ next.cycle.start) ∧
    (∀ i j round later, rounds[i]? = some round → rounds[j]? = some later → i < j →
      round.cycle.start + (j - i) * interval.nanos ≤ later.cycle.start + 5000000) ∧
    (∀ i round, rounds[i]? = some round → (∀ k < i, duration k ≤ interval.nanos) →
      round.cycle.start = start + i * interval.nanos) := by
  obtain ⟨results, hresults⟩ := exists_results (t := recording r node identity) hdelay store s
  have hloop : rounds = loopFrom store (recording r node identity) interval.nanos duration count 0
      start start s := by
    rw [hrounds, loop, if_neg (by omega)]
  obtain ⟨hcycles, hprogress⟩ := loopFrom_eq (i := 0) count start start interval.nanos duration
    (fun j => by rw [Nat.zero_add]; exact hresults j)
  rw [← hloop] at hcycles hprogress
  -- a round of the loop is a cycle of the schedule
  have hcycle {i : Nat} {round : Round} (h : rounds[i]? = some round) :
      (cyclesFrom interval.nanos node identity.name (fun i => (duration i, results i)) count 0 start
        start)[i]? = some round.cycle := by
    have hmap : (rounds.map Round.cycle)[i]? = _ := congrArg (·[i]?) hcycles
    rw [List.getElem?_map, h] at hmap
    exact hmap.symm
  refine ⟨?_, ?_, ?_, ?_, ?_, ?_⟩
  · have hlength := congrArg List.length hcycles
    rwa [List.length_map, length_cyclesFrom] at hlength
  · intro i round hround
    obtain ⟨hfinish, hevents⟩ := finish_and_events (hcycle hround)
    have hrun := hprogress i round hround
    have hphase := hresults i
    rw [← hrun] at hphase
    rw [Nat.zero_add] at hfinish hevents
    refine ⟨results i, hrun, hphase, hfinish, ?_, ?_⟩
    · rw [hevents]
      rfl
    · rw [hrun, hevents]
      exact countP_failures _ _ _
  · intro round hround
    have hfirst := start_eq_of_short (Nat.le_refl start) (hcycle hround) (by omega)
    rwa [Nat.zero_mul, Nat.add_zero] at hfirst
  · intro i round next hround hnext
    exact finish_le_start (hcycle hround) (hcycle hnext)
  · intro i j round later hround hlater hij
    exact start_add_mul_le (hcycle hround) (hcycle hlater) hij
  · intro i round hround hshort
    apply start_eq_of_short (Nat.le_refl start) (hcycle hround)
    intro k hk
    rw [Nat.zero_add]
    exact hshort k hk

/-- Against a store without the node every cycle fails.  The first one takes two periods and stalls
the second one, and the third one keeps its distance from that. -/
theorem loop_keeps_pace_of_stalled :
    1000000 ≤ (Duration.ofMillis 10).nanos ∧
      (∀ n, ({} : Reconciler).retry.delay n ≠ .undefined) ∧
      ∃ first second third,
        loop MemoryStore.store (recording {} "n" ⟨"driver", "id"⟩) (.ofMillis 10)
          (fun i => if i = 0 then 20000000 else 0) 3 0 .empty = [first, second, third] ∧
        first.cycle.start = 0 ∧ second.cycle.start + 10000000 ≤ third.cycle.start + 5000000 ∧
        first.cycle.finish ≤ second.cycle.start := by
  have hinterval : 1000000 ≤ (Duration.ofMillis 10).nanos := by decide
  have hdelay : ∀ n, ({} : Reconciler).retry.delay n ≠ .undefined :=
    EditTask.delay_standard_ne_undefined
  obtain ⟨hlength, -, hstart, hover, hpace, -⟩ := loop_keeps_pace hinterval hdelay "n"
    ⟨"driver", "id"⟩ MemoryStore.store .empty (fun i => if i = 0 then 20000000 else 0) 3 0 rfl
  obtain ⟨first, second, third, hrounds⟩ := List.length_eq_three.1 hlength
  rw [hrounds] at hstart hover hpace
  exact ⟨hinterval, hdelay, first, second, third, hrounds, hstart first rfl,
    hpace 1 2 second third rfl rfl (by decide), hover 0 first second rfl rfl⟩

end DriverRegistration.Sync
