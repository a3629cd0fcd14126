import DriverRegistration.Proofs.Timeline.Removal
import DriverRegistration.Proofs.Timeline.Rivals
import DriverRegistration.Proofs.Timeline.Steps

/-!
# A registrar alone on a timeline

Until its removal is over, a registrar that is alone has one job of its own in the queue, which
starts it, stops it or is the next step of the removal, and at most one job of its periodic part
(`Lone.OnWay`).  A job of its own brings it nearer to its end or is the end
(`Lone.OnWay.doAt_main`).  A job of the periodic part leaves the other one where it is, and only so
many of them fit before a time (`Lone.OnWay.doAt_loop`).
-/

namespace DriverRegistration.Timeline

open EditTask (Phase Call Turn)

/-! ## Jobs of an actor -/

/-- Whether a job belongs to what an actor does besides its periodic part. -/
def Job.besides : Job → Bool
  | .start | .stop | .own => true
  | .tick | .cycle => false

namespace World

section Parts

variable {w w' : World} {i : Nat} {p : Player} {t : EditTask} {phase phase' : Phase}

theorem queue_taken {d : Due} {rest : List Due} (h : w.queue.Perm (d :: rest)) (time : Nat) :
    (w.taken d time).queue.Perm rest := by
  have hd : d ∈ w.queue := h.mem_iff.2 List.mem_cons_self
  exact ((List.perm_cons_erase hd).symm.trans h).cons_inv

/-- An edit besides that has not ended goes on. -/
theorem own_of_going (hstep : w.step p.actor t phase = (phase', w'))
    (hresult : phase'.result? = none) (hstuck : phase' ≠ .stuck) :
    w.own i p t phase =
      (w'.put i { p with own := some phase' }).resume (w'.now + p.actor.wait w'.now phase') i
        .own := by
  unfold own
  rw [hstep]
  cases phase' with
  | finished result => cases hresult
  | stuck => exact absurd rfl hstuck
  | reading | writing | pausing => rfl

end Parts

end World

namespace Lone

/-! ## What is in the queue -/

/-- What the actor does besides its periodic part: the job that is due, how often the removal has
lost, and how many jobs are left at most. -/
inductive Errand (l : Lone) (written : Nat) (s : MemoryStore) :
    Option Phase → Job → Nat → Nat → Prop
  | start : Errand l written s none .start 0 7
  | stop : Errand l written s none .stop 0 6
  | own {phase : Phase} {lost left : Nat} (h : l.Stage written s phase lost left) :
      Errand l written s (some phase) .own lost left

/-- The periodic part and what it has in the queue. -/
inductive Looping (l : Lone) (written : Nat) (s : MemoryStore) : Periodic → List Due → Prop
  | waiting {deadline time : Nat} (hi : l.interval.nanos ≠ 0) (hd : deadline ≤ time * 1000000) :
      Looping l written s (.waiting deadline) [⟨time, 0, .tick⟩]
  | editing {deadline time : Nat} {phase : Phase} (hi : l.interval.nanos ≠ 0)
      (hc : l.Cycling written s phase) :
      Looping l written s (.editing deadline phase) [⟨time, 0, .cycle⟩]
  | died : Looping l written s .died []
  | stopped : Looping l written s .stopped []

/-- How many jobs of the periodic part can come by a time, in nanoseconds. -/
def loopLeft (horizon : Nat) : Periodic → Nat
  | .waiting deadline => 3 * (horizon + 1 - deadline)
  | .editing deadline (.reading _) => 3 * (horizon + 1 - deadline) + 2
  | .editing deadline _ => 3 * (horizon + 1 - deadline) + 1
  | _ => 0

/-- The removal is yet to end. -/
structure OnWay (l : Lone) (written lost left : Nat) (p : Player) (main : Due) (loop : List Due)
    (w : World) : Prop where
  players : w.players = [p]
  actor : p.actor = l.actor
  place : main.player = 0
  errand : l.Errand written w.store p.own main.job lost left
  looping : l.Looping written w.store p.periodic loop
  fresh : main.job = .start → p.periodic = .stopped
  queue : w.queue.Perm (main :: loop)
  tended : l.Tended written w.store
  results : w.results = []

/-- The removal has ended, and nothing that is still in the queue will be done. -/
structure Over (l : Lone) (written lost removed : Nat) (w : World) : Prop where
  player : ∃ p, w.players = [p] ∧ p.periodic = .stopped ∧ p.own = none
  queue : ∀ d ∈ w.queue, d.player = 0 ∧ d.job.besides = false
  cleared : l.Cleared written removed w.store
  lost_le : lost ≤ written
  results : ∃ outcome, w.results = [.ok outcome] ∧ ∀ k, outcome = .updated k → k ≤ 2

variable {l : Lone} {written lost left removed : Nat} {s s' : MemoryStore} {p : Player}
  {main d : Due} {loop : List Due} {w : World}

theorem Errand.grows {written' : Nat} {own : Option Phase} {job : Job}
    (h : l.Errand written s own job lost left) (hw : written ≤ written') (hg : s.Grows s') :
    l.Errand written' s' own job lost left := by
  cases h with
  | start => exact .start
  | stop => exact .stop
  | own h => exact .own (h.grows hw hg)

theorem Errand.besides {own : Option Phase} {job : Job}
    (h : l.Errand written s own job lost left) : job.besides = true := by
  cases h with
  | start | stop | own => rfl

theorem Errand.lost_le {own : Option Phase} {job : Job}
    (h : l.Errand written s own job lost left) (hs : l.Tended written s) : lost ≤ written := by
  cases h with
  | start | stop => exact Nat.zero_le _
  | own h => exact h.lost_le hs

theorem Errand.left_pos {own : Option Phase} {job : Job}
    (h : l.Errand written s own job lost left) (hs : l.Tended written s) : 0 < left := by
  cases h with
  | start | stop => decide
  | own h => exact h.left_pos hs

theorem Looping.of_nodes_eq {periodic : Periodic} (h : l.Looping written s periodic loop)
    (hnodes : s'.nodes = s.nodes) : l.Looping written s' periodic loop := by
  cases h with
  | waiting hi hd => exact .waiting hi hd
  | editing hi hc => exact .editing hi (hc.of_nodes_eq hnodes)
  | died => exact .died
  | stopped => exact .stopped

theorem Looping.mem {periodic : Periodic} (h : l.Looping written s periodic loop) (hd : d ∈ loop) :
    d.player = 0 ∧ d.job.besides = false := by
  cases h with
  | waiting | editing =>
    rw [List.mem_singleton.1 hd]
    exact ⟨rfl, rfl⟩
  | died | stopped => exact absurd hd List.not_mem_nil

theorem Stage.going {phase : Phase} (h : l.Stage written s phase lost left) :
    phase.result? = none ∧ phase ≠ .stuck := by
  cases h with
  | reading | writing | pausing => exact ⟨rfl, Phase.noConfusion⟩

theorem players_put (hp : w.players = [p]) (q : Player) : (w.put 0 q).players = [q] := by
  rw [World.put, hp, List.set_cons_zero]

/-- The actor goes on with a job, besides its periodic part or of it. -/
theorem OnWay.players_zero (h : l.OnWay written lost left p main loop w) :
    w.players[0]? = some p := by
  rw [h.players]
  rfl

theorem OnWay.of_resume {time : Nat} {job : Job} (hplayers : w.players = [p])
    (hactor : p.actor = l.actor) (hplace : main.player = 0)
    (herrand : l.Errand written w.store p.own main.job lost left)
    (hlooping : l.Looping written w.store p.periodic loop) (hfresh : main.job ≠ .start)
    (hqueue : (⟨max w.now time, 0, job⟩ :: w.queue).Perm (main :: loop))
    (htended : l.Tended written w.store) (hresults : w.results = []) :
    l.OnWay written lost left p main loop (w.resume time 0 job) where
  players := (w.players_resume 0 time job).trans hplayers
  actor := hactor
  place := hplace
  errand := by
    rw [World.store_resume]
    exact herrand
  looping := by
    rw [World.store_resume]
    exact hlooping
  fresh := fun hstart => absurd hstart hfresh
  queue := (w.queue_resume_max 0 time job).trans hqueue
  tended := by
    rw [World.store_resume]
    exact htended
  results := by
    rw [World.results, World.trace_resume]
    exact hresults

/-! ## The jobs besides -/

section Main

variable {due : Nat} {periodic : Periodic} {own : Option Phase}

/-- The actor starts: its stop is planned, and its periodic part waits for the first cycle unless
the period is no time. -/
theorem OnWay.doAt_start
    (h : l.OnWay written lost left ⟨l.actor, periodic, own⟩ ⟨due, 0, .start⟩ loop w) (time : Nat) :
    left = 7 ∧
      ∃ p' main' loop', l.OnWay written lost 6 p' main' loop' (w.doAt ⟨due, 0, .start⟩ time) := by
  obtain rfl : periodic = .stopped := h.fresh rfl
  have hloop : loop = [] := by
    cases h.looping with
    | stopped => rfl
  have hqueue : (w.taken ⟨due, 0, .start⟩ time).queue.Perm [] :=
    World.queue_taken (hloop ▸ h.queue) time
  rw [World.doAt_start_of_records (Or.inl l.work_eq) (h.players_zero)]
  cases h.errand with
  | start =>
    refine ⟨rfl, ?_⟩
    unfold World.startPeriodic
    by_cases hi : l.interval.nanos = 0
    · rw [if_pos hi]
      exact ⟨_, _, _, .of_resume (players_put h.players _) rfl rfl .stop .died Job.noConfusion
        (hqueue.cons _) h.tended h.results⟩
    · rw [if_neg hi]
      have hlooping : l.Looping written w.store (.waiting (time * 1000000)) [⟨time, 0, .tick⟩] :=
        .waiting hi (Nat.le_refl _)
      refine ⟨_, _, _, .of_resume (players_put h.players _) rfl rfl .stop hlooping Job.noConfusion
        (.cons _ ?_) h.tended h.results⟩
      exact (insertDue_perm _ _).trans (hqueue.cons _)

/-- The actor is stopped: its removal begins, and its periodic part stays as it is. -/
theorem OnWay.doAt_stop
    (h : l.OnWay written lost left ⟨l.actor, periodic, own⟩ ⟨due, 0, .stop⟩ loop w) (time : Nat) :
    left = 6 ∧ ∃ p' main', l.OnWay written lost 5 p' main' loop (w.doAt ⟨due, 0, .stop⟩ time) := by
  have hqueue := World.queue_taken h.queue time
  have hdo : w.doAt ⟨due, 0, .stop⟩ time =
      ((w.taken ⟨due, 0, .stop⟩ time).note l.actor .shutdown).startOwn 0
        ⟨l.actor, periodic, own⟩ := by
    simp only [World.doAt, World.perform, World.taken, h.players, List.getElem?_cons_zero,
      l.work_eq]
  have hresults : ((w.taken ⟨due, 0, .stop⟩ time).note l.actor .shutdown).results = [] := by
    rw [World.results_of_trace (w := w) rfl, h.results]
    rfl
  rw [hdo]
  cases h.errand with
  | stop =>
    exact ⟨rfl, _, _, .of_resume (players_put h.players _) rfl rfl (.own (.reading (Nat.zero_le _)))
      h.looping Job.noConfusion (hqueue.cons _) h.tended hresults⟩

section Own

variable {phase phase' : Phase} {calls : List Call} {events : List Event} {time : Nat}
  (h : l.OnWay written lost left ⟨l.actor, periodic, some phase⟩ ⟨due, 0, .own⟩ loop w)
  (hstep : (w.taken ⟨due, 0, .own⟩ time).step l.actor l.removal phase =
    (phase', (w.taken ⟨due, 0, .own⟩ time).stepped l.actor calls s' events))
include h

theorem OnWay.doAt_own_eq (time : Nat) :
    w.doAt ⟨due, 0, .own⟩ time = (w.taken ⟨due, 0, .own⟩ time).own 0
      ⟨l.actor, periodic, some phase⟩ l.removal phase := by
  simp only [World.doAt, World.perform, World.taken, h.players, List.getElem?_cons_zero, l.work_eq]
  rfl

include hstep

/-- A step of the removal that is not its last one. -/
theorem OnWay.doAt_own_of_stage {lost' left' : Nat} (hstage : l.Stage written s' phase' lost' left')
    (htended : l.Tended written s') (hnodes : s'.nodes = w.store.nodes) :
    w.asked (w.doAt ⟨due, 0, .own⟩ time) = calls ∧
      ∃ p' main', l.OnWay written lost' left' p' main' loop (w.doAt ⟨due, 0, .own⟩ time) := by
  obtain ⟨hresult, hstuck⟩ := hstage.going
  have hgo := (h.doAt_own_eq time).trans
    (World.own_of_going (p := ⟨l.actor, periodic, some phase⟩) hstep hresult hstuck)
  have hresults : ((w.taken ⟨due, 0, .own⟩ time).stepped l.actor calls s' events).results = [] :=
    (World.results_stepped _ _ _ _ _).trans h.results
  constructor
  · refine World.asked_stepped (w.taken ⟨due, 0, .own⟩ time) l.actor calls s' events [] ?_ rfl
    rw [hgo, World.trace_resume, List.append_nil]
    rfl
  · rw [hgo]
    exact ⟨_, ⟨_, 0, .own⟩, .of_resume (players_put h.players _) rfl rfl (.own hstage)
      (h.looping.of_nodes_eq hnodes) Job.noConfusion ((World.queue_taken h.queue time).cons _)
      htended hresults⟩

/-- The last step of the removal. -/
theorem OnWay.doAt_own_of_ended {outcome : EditOutcome} {removed : Nat}
    (hphase : phase' = .finished (.ok outcome)) (houtcome : ∀ k, outcome = .updated k → k ≤ 2)
    (hcleared : l.Cleared written removed s') :
    w.asked (w.doAt ⟨due, 0, .own⟩ time) = calls ∧
      l.Over written lost removed (w.doAt ⟨due, 0, .own⟩ time) := by
  subst hphase
  have hend : w.doAt ⟨due, 0, .own⟩ time =
      ((w.taken ⟨due, 0, .own⟩ time).stepped l.actor calls s' events).finishOwn 0
        ⟨l.actor, periodic, some phase⟩ (.ok outcome) := by
    rw [h.doAt_own_eq time, World.own, hstep]
  have htrace : (w.doAt ⟨due, 0, .own⟩ time).trace =
      ((w.taken ⟨due, 0, .own⟩ time).stepped l.actor calls s' events).trace ++
        [⟨time, l.actor.name, .ended (.edited (.ok outcome))⟩] := by
    rw [hend]
    rfl
  refine ⟨World.asked_stepped (w.taken ⟨due, 0, .own⟩ time) l.actor calls s' events _ htrace rfl,
    ⟨⟨l.actor, .stopped, none⟩, ?_, rfl, rfl⟩, ?_, ?_, h.errand.lost_le h.tended, outcome, ?_,
    houtcome⟩
  · rw [hend]
    exact players_put h.players _
  · intro d hd
    rw [hend] at hd
    exact h.looping.mem ((World.queue_taken h.queue time).mem_iff.1 hd)
  · rw [hend]
    exact hcleared
  · rw [World.results_of_trace htrace, World.results_stepped]
    exact congrArg (· ++ [.ok outcome]) h.results

end Own

/-- A step of the removal brings it nearer to its end, or it is the end. -/
theorem OnWay.doAt_own
    (h : l.OnWay written lost left ⟨l.actor, periodic, own⟩ ⟨due, 0, .own⟩ loop w) (time : Nat) :
    (∃ left' p' main', left' < left ∧
        l.OnWay written (lost + w.share .own Call.refused ⟨due, 0, .own⟩ time) left' p' main' loop
          (w.doAt ⟨due, 0, .own⟩ time) ∧ w.share .own Call.accepted ⟨due, 0, .own⟩ time = 0) ∨
      l.Over written lost (w.share .own Call.accepted ⟨due, 0, .own⟩ time)
          (w.doAt ⟨due, 0, .own⟩ time) ∧
        w.share .own Call.refused ⟨due, 0, .own⟩ time = 0 := by
  cases h.errand with
  | @own phase _ _ hstage =>
    obtain ⟨phase', calls, s', events, hturn, hstep⟩ :=
      (w.taken ⟨due, 0, .own⟩ time).step_cases l.actor l.removal phase
    rcases hstage.turn h.tended hturn with
      ⟨left', hleft, hstage', htended, hnodes, hnone⟩ | ⟨outcome, hphase, houtcome, hcleared, hnone⟩
    · left
      obtain ⟨hasked, p', main', hnext⟩ := h.doAt_own_of_stage hstep hstage' htended hnodes
      rw [World.share_of_asked rfl hasked, World.share_of_asked rfl hasked]
      exact ⟨left', p', main', hleft, hnext, hnone⟩
    · right
      obtain ⟨hasked, hover⟩ := h.doAt_own_of_ended hstep hphase houtcome hcleared
      rw [World.share_of_asked rfl hasked, World.share_of_asked rfl hasked]
      exact ⟨hover, hnone⟩

/-- A job besides the periodic part brings the actor nearer to its end, or it is the end. -/
theorem OnWay.doAt_main (h : l.OnWay written lost left p main loop w) (time : Nat) :
    (∃ left' p' main' loop', left' < left ∧
        l.OnWay written (lost + w.share .own Call.refused main time) left' p' main' loop'
          (w.doAt main time) ∧ w.share .own Call.accepted main time = 0) ∨
      l.Over written lost (w.share .own Call.accepted main time) (w.doAt main time) ∧
        w.share .own Call.refused main time = 0 := by
  obtain ⟨actor, periodic, own⟩ := p
  obtain rfl : actor = l.actor := h.actor
  obtain ⟨due, player, job⟩ := main
  obtain rfl : player = 0 := h.place
  have hbesides : job.besides = true := h.errand.besides
  cases job with
  | start =>
    obtain ⟨rfl, p', main', loop', hnext⟩ := h.doAt_start time
    exact Or.inl ⟨6, p', main', loop', by decide, hnext, World.share_of_ne Job.noConfusion time⟩
  | stop =>
    obtain ⟨rfl, p', main', hnext⟩ := h.doAt_stop time
    exact Or.inl ⟨5, p', main', loop, by decide, hnext, World.share_of_ne Job.noConfusion time⟩
  | own =>
    rcases h.doAt_own time with ⟨left', p', main', hleft, hnext, hnone⟩ | hover
    · exact Or.inl ⟨left', p', main', loop, hleft, hnext, hnone⟩
    · exact Or.inr hover
  | tick | cycle => cases hbesides

end Main

/-! ## The jobs of the periodic part -/

section Periodic

variable {deadline due : Nat} {own : Option Phase} {phase : Phase}

/-- A cycle begins with a read, and the next deadline is later. -/
theorem OnWay.doAt_tick (h : l.OnWay written lost left ⟨l.actor, .waiting deadline, own⟩ main
    [⟨due, 0, .tick⟩] w) (hi : l.interval.nanos ≠ 0) (time : Nat) :
    ∃ deadline' loop', deadline < deadline' ∧
      l.OnWay written lost left ⟨l.actor, .editing deadline' EditTask.start, own⟩ main loop'
        (w.doAt ⟨due, 0, .tick⟩ time) := by
  have hqueue := World.queue_taken (h.queue.trans (.swap _ _ _)) time
  have hfresh : main.job ≠ .start := fun hstart => Periodic.noConfusion (h.fresh hstart)
  rw [World.doAt_tick (Or.inl l.work_eq) (h.players_zero) rfl]
  refine ⟨Sync.nextDeadline l.interval.nanos deadline (time * 1000000), _, ?_,
    .of_resume (players_put h.players _) rfl h.place h.errand (.editing hi .reading) hfresh
      ((hqueue.cons _).trans (.swap _ _ _)) h.tended h.results⟩
  unfold Sync.nextDeadline
  split
  · omega
  · omega

/-- A step of a cycle leads to its write or to the wait for the next cycle. -/
theorem OnWay.doAt_cycle (h : l.OnWay written lost left ⟨l.actor, .editing deadline phase, own⟩ main
    [⟨due, 0, .cycle⟩] w) (hi : l.interval.nanos ≠ 0) (hc : l.Cycling written w.store phase)
    (time : Nat) :
    ∃ periodic' loop',
      (periodic' = .waiting deadline ∨ ∃ attempt r, phase = .reading attempt ∧
        periodic' = .editing deadline (.writing attempt r)) ∧
      l.OnWay (written + w.share .cycle Call.accepted ⟨due, 0, .cycle⟩ time) lost left
        ⟨l.actor, periodic', own⟩ main loop' (w.doAt ⟨due, 0, .cycle⟩ time) := by
  have hqueue := World.queue_taken (h.queue.trans (.swap _ _ _)) time
  have hfresh : main.job ≠ .start := fun hstart => Periodic.noConfusion (h.fresh hstart)
  have hdo := World.doAt_cycle (Or.inl l.work_eq) (h.players_zero) rfl due time
  obtain ⟨phase', calls, s', events, hturn, hstep⟩ :=
    (w.taken ⟨due, 0, .cycle⟩ time).step_cases l.actor l.recording phase
  obtain ⟨htended, hgoes⟩ := hc.turn h.tended hturn
  have herrand := h.errand.grows (Nat.le_add_right written (calls.countP Call.accepted)) hturn.grows
  have hresults : ((w.taken ⟨due, 0, .cycle⟩ time).stepped l.actor calls s' events).results = [] :=
    (World.results_stepped _ _ _ _ _).trans h.results
  have hshare (htrace : (w.doAt ⟨due, 0, .cycle⟩ time).trace =
      ((w.taken ⟨due, 0, .cycle⟩ time).stepped l.actor calls s' events).trace) :
      w.share .cycle Call.accepted ⟨due, 0, .cycle⟩ time = calls.countP Call.accepted := by
    refine World.share_of_asked rfl (World.asked_stepped (w.taken ⟨due, 0, .cycle⟩ time) l.actor
      calls s' events [] ?_ rfl)
    rw [htrace, List.append_nil]
  rcases hgoes with ⟨attempt, r, rfl, rfl, hc'⟩ | ⟨outcome, rfl⟩
  · have hgo := hdo.trans (World.cycle_of_going (p := ⟨l.actor, .editing deadline _, own⟩) hstep rfl
      Phase.noConfusion)
    rw [hshare (by rw [hgo, World.trace_resume]; rfl), hgo]
    exact ⟨_, _, Or.inr ⟨attempt, r, rfl, rfl⟩, .of_resume (players_put h.players _) rfl h.place
      herrand (.editing hi hc') hfresh ((hqueue.cons _).trans (.swap _ _ _)) htended hresults⟩
  · have hend := hdo.trans
      (World.cycle_of_finished (p := ⟨l.actor, .editing deadline phase, own⟩) hstep)
    have hceil : deadline ≤ (Duration.mk deadline).ceilMillis * 1000000 := by
      unfold Duration.ceilMillis
      dsimp only
      omega
    rw [hshare (by rw [hend, World.trace_resume]; rfl), hend]
    exact ⟨_, _, Or.inl rfl, .of_resume (players_put h.players _) rfl h.place herrand
      (.waiting hi (Nat.le_trans hceil (Nat.mul_le_mul_right _ (Nat.le_max_right _ _)))) hfresh
      ((hqueue.cons _).trans (.swap _ _ _)) htended hresults⟩

/-- A job of the periodic part leaves what is due besides, and of such jobs fewer are left. -/
theorem OnWay.doAt_loop (h : l.OnWay written lost left p main loop w) (hd : d ∈ loop) (time : Nat) :
    ∃ p' loop', l.OnWay (written + w.share .cycle Call.accepted d time) lost left p' main loop'
        (w.doAt d time) ∧
      ∀ horizon, d.time * 1000000 ≤ horizon →
        loopLeft horizon p'.periodic < loopLeft horizon p.periodic := by
  obtain ⟨actor, periodic, own⟩ := p
  obtain rfl : actor = l.actor := h.actor
  have hlooping : l.Looping written w.store periodic loop := h.looping
  cases hlooping with
  | @waiting deadline due hi hdue =>
    obtain rfl : d = ⟨due, 0, .tick⟩ := List.mem_singleton.1 hd
    obtain ⟨deadline', loop', hlater, hnext⟩ := h.doAt_tick hi time
    have hnone : w.share .cycle Call.accepted ⟨due, 0, .tick⟩ time = 0 :=
      World.share_of_ne Job.noConfusion time
    rw [hnone]
    refine ⟨_, loop', hnext, fun horizon hhorizon => ?_⟩
    have hbefore : deadline ≤ horizon := Nat.le_trans hdue hhorizon
    simp only [loopLeft, EditTask.start]
    omega
  | @editing deadline due phase hi hc =>
    obtain rfl : d = ⟨due, 0, .cycle⟩ := List.mem_singleton.1 hd
    obtain ⟨periodic', loop', hperiodic, hnext⟩ := h.doAt_cycle hi hc time
    refine ⟨_, loop', hnext, fun horizon _ => ?_⟩
    rcases hperiodic with rfl | ⟨attempt, r, rfl, rfl⟩
    · cases hc with
      | reading | writing =>
        simp only [loopLeft]
        omega
    · simp only [loopLeft]
      omega
  | died | stopped => exact absurd hd List.not_mem_nil

end Periodic

end Lone

end DriverRegistration.Timeline
