import DriverRegistration.Proofs.Reconcile.Pacing
import DriverRegistration.Proofs.Timeline.Steps
import Mathlib.Logic.Function.Basic

/-!
# The loop on a timeline

The periodic part of an actor is the loop of `Sync.loop`, spread over the jobs of a timeline.  A
tick begins a cycle and sets the deadline of the next one; the jobs after it let the steps of the
edit take effect, and the last of them plans the next tick.

Where nothing comes between its jobs, a cycle is one round of the loop (`World.Ready.play_round`).
By induction on their number, all cycles of an actor are rounds of the loop, with the same starts,
ends and reports and the same effect on the store (`World.exists_play_loop`).
-/

namespace DriverRegistration

namespace Sync

variable {σ : Type}

/-- The durations of earlier cycles do not matter. -/
theorem loopFrom_update (store : NodeStore σ) (t : EditTask) (period : Nat) (duration : Nat → Nat)
    (length : Nat) {first i : Nat} (hi : first < i) (count deadline free : Nat) (s : σ) :
    loopFrom store t period (Function.update duration first length) count i deadline free s =
      loopFrom store t period duration count i deadline free s := by
  induction count generalizing i deadline free s with
  | zero => rfl
  | succ count ih =>
    have hfirst : Function.update duration first length i = duration i :=
      Function.update_of_ne (Nat.ne_of_gt hi) _ _
    simp only [loopFrom, hfirst, ih (Nat.lt_succ_of_lt hi)]

end Sync

namespace Timeline

open EditTask (Phase)

/-- The jobs of a round: a tick at its start, then the steps of its edit, the last one at its
end. -/
inductive PlaysRound (i : Nat) (round : Sync.Round) : List (Due × Nat) → Prop
  | intro {start finish : Nat} {between : List (Due × Nat)}
      (hstart : round.cycle.start = start * 1000000)
      (hbetween : ∀ step ∈ between, ∃ time, step = (⟨time, i, .cycle⟩, time))
      (hfinish : round.cycle.finish = finish * 1000000) :
      PlaysRound i round
        ((⟨start, i, .tick⟩, start) :: (between ++ [(⟨finish, i, .cycle⟩, finish)]))

namespace World

/-- The periodic part of an actor is in a state, and a job is due. -/
structure Ready (i : Nat) (p : Player) (periodic : Periodic) (d : Due) (w : World) : Prop where
  player : w.players[i]? = some { p with periodic }
  due : d ∈ w.queue

theorem log_resume (w : World) (i time : Nat) (job : Job) : (w.resume time i job).log = w.log := by
  unfold World.resume
  split
  · rfl
  · rfl

section Jobs

variable {i time deadline : Nat} {p : Player} {periodic : Periodic}
  {identity : DriverIdentity} {interval : Duration} {stop : Nat} {phase : Phase}
  {progress : EditTask.Progress} {s' : MemoryStore} {w : World}

theorem Ready.resume (hp : ∃ periodic, w.players[i]? = some { p with periodic }) {due time : Nat}
    (hdue : due = max w.now time) (job : Job) :
    Ready i p periodic ⟨due, i, job⟩ ((w.put i { p with periodic }).resume time i job) where
  player := by
    obtain ⟨_, hp⟩ := hp
    rw [players_resume]
    exact players_put w i _ hp
  due := by
    have hqueue := queue_resume_max (w.put i { p with periodic }) i time job
    rw [hdue]
    exact hqueue.mem_iff.2 List.mem_cons_self

/-- A tick sets the deadline of the next cycle and begins the edit. -/
theorem Ready.doAt_tick (ha : p.actor.Records identity interval stop)
    (h : Ready i p (.waiting deadline) ⟨time, i, .tick⟩ w) :
    Ready i p
        (.editing (Sync.nextDeadline interval.nanos deadline (time * 1000000)) EditTask.start)
        ⟨time + p.actor.wait time EditTask.start, i, .cycle⟩ (w.doAt ⟨time, i, .tick⟩ time) ∧
      (w.doAt ⟨time, i, .tick⟩ time).store = w.store ∧
      (w.doAt ⟨time, i, .tick⟩ time).log = w.log := by
  have hdo := World.doAt_tick (p := { p with periodic := .waiting deadline }) ha h.player rfl
  rw [hdo, World.tick]
  dsimp only
  refine ⟨.resume ?_ ?_ .cycle, store_resume _ _ _ _, log_resume _ _ _ _⟩
  · exact ⟨_, h.player⟩
  · exact (Nat.max_eq_right (Nat.le_add_right _ _)).symm

section Cycle

variable (ha : p.actor.Records identity interval stop)
  (h : Ready i p (.editing deadline phase) ⟨time, i, .cycle⟩ w)
  (hadvance : (p.actor.upsert identity).advance MemoryStore.store phase w.store = (progress, s'))
include ha h hadvance

/-- A step of a cycle that has further ones after it. -/
theorem Ready.doAt_cycle_of_going (hresult : progress.phase.result? = none)
    (hstuck : progress.phase ≠ .stuck) :
    Ready i p (.editing deadline progress.phase)
        ⟨time + p.actor.wait time progress.phase, i, .cycle⟩ (w.doAt ⟨time, i, .cycle⟩ time) ∧
      (w.doAt ⟨time, i, .cycle⟩ time).store = s' ∧
      (w.doAt ⟨time, i, .cycle⟩ time).log = w.log ++ progress.events := by
  have hstep := step_eq (w.taken ⟨time, i, .cycle⟩ time) p.actor (p.actor.upsert identity) phase
  rw [show (w.taken ⟨time, i, .cycle⟩ time).store = w.store from rfl, hadvance] at hstep
  have hdo := doAt_cycle (p := { p with periodic := .editing deadline phase }) ha h.player rfl
  rw [hdo, cycle_of_going (p := { p with periodic := .editing deadline phase }) hstep hresult
    hstuck]
  dsimp only
  refine ⟨.resume ?_ ?_ .cycle, store_resume _ _ _ _, log_resume _ _ _ _⟩
  · exact ⟨_, h.player⟩
  · exact (Nat.max_eq_right (Nat.le_add_right _ _)).symm

/-- The last step of a cycle. -/
theorem Ready.doAt_cycle_of_finished {result : EditResult}
    (hresult : progress.phase = .finished result) :
    Ready i p (.waiting deadline) ⟨max time (Duration.mk deadline).ceilMillis, i, .tick⟩
        (w.doAt ⟨time, i, .cycle⟩ time) ∧
      (w.doAt ⟨time, i, .cycle⟩ time).store = s' ∧
      (w.doAt ⟨time, i, .cycle⟩ time).log =
        w.log ++ (progress.events ++ Sync.report p.actor.node identity.name result) := by
  have hstep := step_eq (w.taken ⟨time, i, .cycle⟩ time) p.actor (p.actor.upsert identity) phase
  rw [show (w.taken ⟨time, i, .cycle⟩ time).store = w.store from rfl, hadvance, hresult] at hstep
  have hdo := doAt_cycle (p := { p with periodic := .editing deadline phase }) ha h.player rfl
  rw [hdo, cycle_of_finished (p := { p with periodic := .editing deadline phase }) hstep]
  dsimp only
  refine ⟨.resume ?_ ?_ .tick, store_resume _ _ _ _,
    (log_resume _ _ _ _).trans (List.append_assoc _ _ _)⟩
  · exact ⟨_, h.player⟩
  · rfl

end Cycle

/-! ## A round -/

/-- The steps of a cycle, from a phase of its edit to its end.  The induction is on the steps that
are left. -/
theorem Ready.play_cycle (ha : p.actor.Records identity interval stop) {result : EditResult}
    (n : Nat) (h : Ready i p (.editing deadline phase) ⟨time, i, .cycle⟩ w)
    (hphase : phase.result? = none) {c : EditTask.Progress × MemoryStore}
    (hc : EditTask.Progress.ofCourse
      (EditTask.course MemoryStore.store (p.actor.upsert identity) n phase w.store) = c)
    (hresult : c.1.phase = .finished result) :
    ∃ between finish, (∀ step ∈ between, ∃ time, step = (⟨time, i, .cycle⟩, time)) ∧
      time ≤ finish ∧ w.CanPlay (between ++ [(⟨finish, i, .cycle⟩, finish)]) ∧
      Ready i p (.waiting deadline) ⟨max finish (Duration.mk deadline).ceilMillis, i, .tick⟩
        (w.play (between ++ [(⟨finish, i, .cycle⟩, finish)])) ∧
      (w.play (between ++ [(⟨finish, i, .cycle⟩, finish)])).store = c.2 ∧
      (w.play (between ++ [(⟨finish, i, .cycle⟩, finish)])).log =
        w.log ++ (c.1.events ++ Sync.report p.actor.node identity.name result) := by
  induction n generalizing phase time w c with
  | zero =>
    subst hc
    have hend : phase = .finished result := hresult
    rw [hend] at hphase
    cases hphase
  | succ n ih =>
    obtain ⟨⟨progress, s'⟩, hadvance⟩ : ∃ q, (p.actor.upsert identity).advance MemoryStore.store
      phase w.store = q := ⟨_, rfl⟩
    have hone := EditTask.ofCourse_one (t := p.actor.upsert identity) MemoryStore.store phase
      w.store
    rw [hadvance] at hone
    have hcourse := EditTask.ofCourse_add MemoryStore.store n hone
    rw [Nat.add_comm 1 n, hc] at hcourse
    subst hcourse
    by_cases hend : (∃ r, progress.phase = .finished r) ∨ progress.phase = .stuck
    · -- nothing is done after the end, so this step is the last one
      have hnothing := EditTask.ofCourse_ended (t := p.actor.upsert identity) MemoryStore.store n s'
        hend
      rw [hnothing] at hresult ⊢
      obtain ⟨hready, hstore, hlog⟩ := h.doAt_cycle_of_finished ha hadvance hresult
      refine ⟨[], time, fun step hstep => absurd hstep List.not_mem_nil, Nat.le_refl _,
        ⟨h.due, trivial⟩, hready, hstore, ?_⟩
      refine hlog.trans ?_
      simp only [EditTask.Progress.append, List.append_nil]
    · obtain ⟨hfinished, hstuck⟩ := not_or.1 hend
      have hnone : progress.phase.result? = none := by
        cases hp : progress.phase with
        | finished r => exact absurd ⟨r, hp⟩ hfinished
        | reading | writing | pausing | stuck => rfl
      obtain ⟨hready, hstore, hlog⟩ := h.doAt_cycle_of_going ha hadvance hnone hstuck
      rw [← hstore] at hresult ⊢
      obtain ⟨between, finish, hbetween, hle, hcan, hnext, hlast, hreports⟩ :=
        ih hready hnone rfl hresult
      refine ⟨(⟨time, i, .cycle⟩, time) :: between, finish, ?_, by omega, ⟨h.due, hcan⟩, hnext,
        hlast, ?_⟩
      · intro step hstep
        rcases List.mem_cons.1 hstep with rfl | hstep
        · exact ⟨time, rfl⟩
        · exact hbetween step hstep
      · refine hreports.trans ?_
        simp only [hlog, EditTask.Progress.append, List.append_assoc]

/-- A cycle that nothing comes between is a round of the loop. -/
theorem Ready.play_round (ha : p.actor.Records identity interval stop)
    (h : Ready i p (.waiting deadline) ⟨time, i, .tick⟩ w) {result : EditResult}
    {progress : EditTask.Progress} {s' : MemoryStore}
    (hrun : (p.actor.upsert identity).run MemoryStore.store w.store = (progress, s'))
    (hresult : progress.phase = .finished result) :
    ∃ finish steps, time ≤ finish ∧ w.CanPlay steps ∧
      PlaysRound i ⟨⟨time * 1000000, finish * 1000000,
        Sync.report p.actor.node identity.name result⟩, progress⟩ steps ∧
      Ready i p (.waiting (Sync.nextDeadline interval.nanos deadline (time * 1000000)))
        ⟨max finish (Duration.mk
          (Sync.nextDeadline interval.nanos deadline (time * 1000000))).ceilMillis, i, .tick⟩
        (w.play steps) ∧
      (w.play steps).store = s' ∧
      (w.play steps).log =
        w.log ++ (progress.events ++ Sync.report p.actor.node identity.name result) := by
  obtain ⟨hready, hstore, hlog⟩ := h.doAt_tick ha
  rw [EditTask.run_eq_course, ← hstore] at hrun
  obtain ⟨between, finish, hbetween, hle, hcan, hnext, hlast, hreports⟩ :=
    hready.play_cycle ha _ rfl hrun hresult
  refine ⟨finish, _, by omega, ?_, .intro rfl hbetween rfl, ?_, ?_, ?_⟩
  · exact ⟨h.due, hcan⟩
  · exact hnext
  · exact hlast
  · exact hreports.trans (congrArg (· ++ _) hlog)

end Jobs

/-! ## All rounds -/

section Loop

variable {i period stop : Nat} {p : Player} {identity : DriverIdentity} {interval : Duration}
  {w : World}

/-- The next deadline is a whole number of milliseconds. -/
theorem exists_nextDeadline (period deadline time : Nat) :
    ∃ next, Sync.nextDeadline (period * 1000000) (deadline * 1000000) (time * 1000000) =
      next * 1000000 := by
  unfold Sync.nextDeadline
  split
  · exact ⟨time + period, (Nat.add_mul _ _ _).symm⟩
  · exact ⟨deadline + period, (Nat.add_mul _ _ _).symm⟩

theorem ceilMillis_mul (n : Nat) : (Duration.mk (n * 1000000)).ceilMillis = n := by
  unfold Duration.ceilMillis
  dsimp only
  omega

/-- Where nothing comes between the jobs of its periodic part, the cycles of an actor are rounds of
the loop.  The induction is on their number. -/
theorem Ready.exists_play_loopFrom (ha : p.actor.Records identity interval stop)
    (hperiod : interval.nanos = period * 1000000)
    (hdelay : ∀ n, p.actor.reconciler.retry.delay n ≠ .undefined) (count first : Nat)
    {deadline free : Nat}
    (h : Ready i p (.waiting (deadline * 1000000)) ⟨max deadline free, i, .tick⟩ w) :
    ∃ duration groups rounds,
      rounds = Sync.loopFrom MemoryStore.store (p.actor.upsert identity) interval.nanos duration
        count first (deadline * 1000000) (free * 1000000) w.store ∧
      List.Forall₂ (PlaysRound i) rounds groups ∧ w.CanPlay groups.flatten ∧
      (w.play groups.flatten).store =
        Sync.storeAfter MemoryStore.store (p.actor.upsert identity) count w.store ∧
      (w.play groups.flatten).log =
        w.log ++ rounds.flatMap fun round => round.progress.events ++ round.cycle.events := by
  induction count generalizing first deadline free w with
  | zero => exact ⟨fun _ => 0, [], [], rfl, .nil, trivial, rfl, (List.append_nil _).symm⟩
  | succ count ih =>
    obtain ⟨⟨progress, s'⟩, hrun⟩ :
        ∃ q, (p.actor.upsert identity).run MemoryStore.store w.store = q := ⟨_, rfl⟩
    obtain ⟨result, hresult⟩ := Sync.exists_result (t := p.actor.upsert identity) hdelay
      MemoryStore.store w.store
    rw [hrun] at hresult
    replace hresult : progress.phase = .finished result := hresult
    obtain ⟨next, hnext⟩ := exists_nextDeadline period deadline (max deadline free)
    obtain ⟨finish, steps, hle, hcan, hround, hready, hstore, hlog⟩ := h.play_round ha hrun hresult
    rw [hperiod, hnext, ceilMillis_mul, Nat.max_comm] at hready
    obtain ⟨duration, groups, rounds, hrounds, hplays, hcan', hstore', hlog'⟩ :=
      ih (first + 1) hready
    have hmax : Nat.max (deadline * 1000000) (free * 1000000) = max deadline free * 1000000 :=
      (Nat.mul_max_mul_right _ _ _)
    have hlength : max deadline free * 1000000 + (finish - max deadline free) * 1000000 =
        finish * 1000000 := by omega
    refine ⟨Function.update duration first ((finish - max deadline free) * 1000000),
      steps :: groups, _ :: rounds, ?_, .cons hround hplays, canPlay_append.2 ⟨hcan, hcan'⟩, ?_, ?_⟩
    · simp only [Sync.loopFrom, hrun, hresult, hmax, Function.update_self, hlength, hperiod, hnext,
        Sync.loopFrom_update _ _ _ _ _ (Nat.lt_succ_self first), hrounds, hstore]
      rfl
    · rw [List.flatten_cons, play_append, hstore', hstore, Sync.storeAfter, hrun]
    · rw [List.flatten_cons, play_append, hlog', hlog, List.flatMap_cons, List.append_assoc]

/-- The start of an actor with a period plans its first tick. -/
theorem ready_of_start (ha : p.actor.Records identity interval stop)
    (hinterval : interval.nanos ≠ 0) (time : Nat) (hp : w.players[i]? = some p) :
    Ready i p (.waiting (time * 1000000)) ⟨time, i, .tick⟩ (w.doAt ⟨time, i, .start⟩ time) ∧
      (w.doAt ⟨time, i, .start⟩ time).store = w.store ∧
      (w.doAt ⟨time, i, .start⟩ time).log = w.log := by
  rw [doAt_start_of_records ha hp]
  unfold startPeriodic
  rw [if_neg hinterval]
  refine ⟨⟨?_, ?_⟩, store_resume _ _ _ _, log_resume _ _ _ _⟩
  · rw [players_resume]
    exact players_put (w.taken ⟨time, i, .start⟩ time) i _ hp
  · obtain ⟨due, hqueue⟩ := queue_resume (((w.taken ⟨time, i, .start⟩ time).put i
      { p with periodic := .waiting (time * 1000000) }).schedule time i .tick) i stop .stop
    exact hqueue.mem_iff.2 (List.mem_cons_of_mem _ ((insertDue_perm _ _).mem_iff.2
      List.mem_cons_self))

/-- Where nothing comes between the jobs of its periodic part, an actor that has started goes
through the loop from that time on. -/
theorem exists_play_loop (ha : p.actor.Records identity interval stop)
    (hperiod : interval.nanos = period * 1000000) (hpos : 0 < period)
    (hdelay : ∀ n, p.actor.reconciler.retry.delay n ≠ .undefined) (count : Nat) {time : Nat}
    (hp : w.players[i]? = some p) (hd : ⟨time, i, .start⟩ ∈ w.queue) :
    ∃ duration groups rounds steps,
      rounds = Sync.loop MemoryStore.store (p.actor.upsert identity) interval duration count
        (time * 1000000) w.store ∧
      List.Forall₂ (PlaysRound i) rounds groups ∧
      steps = (⟨time, i, .start⟩, time) :: groups.flatten ∧ w.CanPlay steps ∧
      (w.play steps).store =
        Sync.storeAfter MemoryStore.store (p.actor.upsert identity) count w.store ∧
      (w.play steps).log =
        w.log ++ rounds.flatMap fun round => round.progress.events ++ round.cycle.events := by
  have hinterval : interval.nanos ≠ 0 := by omega
  obtain ⟨hready, hstore, hlog⟩ := ready_of_start ha hinterval time hp
  have htick : Ready i p (.waiting (time * 1000000)) ⟨max time time, i, .tick⟩
      (w.doAt ⟨time, i, .start⟩ time) := by
    rw [Nat.max_self]
    exact hready
  obtain ⟨duration, groups, rounds, hrounds, hplays, hcan, hlast, hreports⟩ :=
    htick.exists_play_loopFrom ha hperiod hdelay count 0
  rw [hstore] at hrounds hlast
  rw [hlog] at hreports
  refine ⟨duration, groups, rounds, _, ?_, hplays, rfl, ⟨hd, hcan⟩, hlast, hreports⟩
  rw [Sync.loop, if_neg hinterval]
  exact hrounds

end Loop

end World

end Timeline

end DriverRegistration
