import DriverRegistration.Proofs.Timeline.Orders

/-!
# The removal at the end

An actor that records its driver until it is stopped has two edits on the way after the stop: a
cycle of its periodic part, which may have read the node before the removal and may want to write
after it, and the removal.  The removal wins: when it has succeeded, the node has no entry of the
driver, and the cycle is gone with it.

* `World.Performs` lists what a job of such an actor does.
* `World.Guarded` is the invariant: the removal is made once, from the stop on, and a record that it
  waits to write was proposed by it.
* `World.Gone` is what remains of the actor after the removal, and it stays so.
-/

namespace DriverRegistration.Timeline.World

open EditTask (Phase Call Turn)

/-- The edit that an actor makes besides its periodic one. -/
def own? (w : World) (i : Nat) : Option Phase := (w.players[i]?).bind (·.own)

/-- The periodic part of an actor. -/
def periodic? (w : World) (i : Nat) : Option Periodic := (w.players[i]?).map (·.periodic)

/-- How often an actor is yet to be started or stopped. -/
def planned (w : World) (i : Nat) : Nat :=
  w.queue.countP fun d => d.player = i ∧ (d.job = .start ∨ d.job = .stop)

/-- The edit of an actor has ended: this is the last thing that was noted, and it was just noted. -/
def Returned (w w' : World) (a : Actor) (result : EditResult) : Prop :=
  ∃ entries, w'.trace = w.trace ++ entries ++ [⟨w'.now, a.name, .ended (.edited result)⟩]

/-- No edit has ended. -/
def Quiet (w w' : World) : Prop :=
  ∃ entries, w'.trace = w.trace ++ entries ∧
    ∀ e ∈ entries, ∀ result, e.what ≠ .ended (.edited result)

theorem Quiet.of_eq {w w' : World} (h : w'.trace = w.trace) : Quiet w w' :=
  ⟨[], by rw [h, List.append_nil], fun e he => absurd he List.not_mem_nil⟩

theorem Quiet.trans {w w' w'' : World} (h : Quiet w w') (h' : Quiet w' w'') : Quiet w w'' := by
  obtain ⟨entries, htrace, hquiet⟩ := h
  obtain ⟨entries', htrace', hquiet'⟩ := h'
  refine ⟨entries ++ entries', by rw [htrace', htrace, List.append_assoc], fun e he => ?_⟩
  rcases List.mem_append.1 he with he | he
  · exact hquiet e he
  · exact hquiet' e he

theorem Quiet.note {a : Actor} {what : Occurrence} (h : ∀ result, what ≠ .ended (.edited result))
    (w : World) : Quiet w (w.note a what) := by
  refine ⟨_, rfl, fun e he => ?_⟩
  rw [List.mem_singleton.1 he]
  exact h

theorem Quiet.not_returned {w w' : World} (h : Quiet w w') (a : Actor) (result : EditResult) :
    ¬ Returned w w' a result := by
  rintro ⟨entries, htrace⟩
  obtain ⟨entries', htrace', hquiet⟩ := h
  rw [htrace', List.append_assoc] at htrace
  have hentries := List.append_cancel_left htrace
  have hmem : ⟨w'.now, a.name, .ended (.edited result)⟩ ∈ entries' := by
    rw [hentries]
    exact List.mem_append_right _ List.mem_cons_self
  exact hquiet _ hmem result rfl

theorem Returned.unique {w w' : World} {a : Actor} {result result' : EditResult}
    (h : Returned w w' a result) (h' : Returned w w' a result') : result = result' := by
  obtain ⟨entries, htrace⟩ := h
  obtain ⟨entries', htrace'⟩ := h'
  have hlast := congrArg List.getLast? (htrace.symm.trans htrace')
  rw [List.getLast?_concat, List.getLast?_concat] at hlast
  cases hlast
  rfl

theorem Touches.planned {i j : Nat} {kinds : Job → Prop} {w w' : World}
    (h : Touches j kinds w w') (hk : j = i → ∀ job, kinds job → job.Calm) :
    w'.planned i = w.planned i := by
  obtain ⟨new, hnew, hkinds⟩ := h.queue
  have hnone : new.countP (fun d => d.player = i ∧ (d.job = .start ∨ d.job = .stop)) = 0 := by
    refine List.countP_eq_zero.2 fun d hd => ?_
    obtain ⟨hplayer, hjob⟩ := hkinds d hd
    intro hends
    obtain ⟨hi, hends⟩ := of_decide_eq_true hends
    obtain ⟨hstart, hstop⟩ := hk (hplayer.symm.trans hi) d.job hjob
    exact hends.elim hstart hstop
  rw [World.planned, hnew.countP_eq, List.countP_append, hnone, Nat.zero_add]
  rfl

/-! ## What the jobs of the actor do -/

/-- A job of an actor that runs until it is stopped and then makes the removal `t`. -/
inductive Performs (w : World) (i : Nat) (p : Player) (t : EditTask) : Job → World → Prop
  | started {w' : World} (hplayer : ∃ periodic, w'.players[i]? = some { p with periodic })
      (hplanned : w'.planned i = w.planned i + 1) (hquiet : Quiet w w') :
      Performs w i p t .start w'
  | recorded {job : Job} {w' : World} (hjob : job = .tick ∨ job = .cycle)
      (hplayer : ∃ periodic, w'.players[i]? = some { p with periodic }) (hquiet : Quiet w w') :
      Performs w i p t job w'
  | stopped {w' : World} (hplayer : w'.players[i]? = some { p with own := some EditTask.start })
      (htrace : w'.trace = w.trace ++ [⟨w.now, p.actor.name, .shutdown⟩]) :
      Performs w i p t .stop w'
  | idle {w' : World} (hown : p.own = none) (hsame : w' = w) : Performs w i p t .own w'
  | went {w' : World} {phase phase' : Phase} {calls : List Call} {s' : MemoryStore}
      {own : Option Phase} (hown : p.own = some phase)
      (hturn : Turn t w.store phase phase' calls s') (hphase : phase'.result? = none)
      (hplayer : w'.players[i]? = some { p with own }) (hown' : ∀ q, own = some q → q = phase')
      (hquiet : Quiet w w') : Performs w i p t .own w'
  | ended {w' : World} {phase : Phase} {result : EditResult} {calls : List Call}
      (hown : p.own = some phase) (hturn : Turn t w.store phase (.finished result) calls w'.store)
      (hplayer : w'.players[i]? = some { p with periodic := .stopped, own := none })
      (htrace : Returned w w' p.actor result) : Performs w i p t .own w'

section Jobs

variable {w : World} {i : Nat} {p : Player}

theorem players_put_resume {q : Player} {time : Nat} {job : Job} (hp : w.players[i]? = some p) :
    ((w.put i q).resume time i job).players[i]? = some q := by
  rw [players_resume]
  exact players_put w i q hp

theorem quiet_stepped (a : Actor) (calls : List Call) (s' : MemoryStore) (events : List Event) :
    Quiet w (w.stepped a calls s' events) := by
  refine ⟨_, rfl, fun e he result => ?_⟩
  obtain ⟨c, -, rfl⟩ := List.mem_map.1 he
  exact fun h => Occurrence.noConfusion h

theorem performs_start (hp : w.players[i]? = some p) (t : EditTask) (interval : Duration)
    (stop : Nat) : Performs w i p t .start (w.startPeriodic i p interval stop) := by
  have hresume : ∀ {w' : World}, w'.planned i = w.planned i →
      (w'.resume stop i .stop).planned i = w.planned i + 1 := by
    intro w' hw'
    obtain ⟨time, hqueue⟩ := w'.queue_resume i stop .stop
    rw [planned, hqueue.countP_eq, List.countP_cons_of_pos (by simp), ← hw']
    rfl
  unfold startPeriodic
  split
  · have htouches : Touches i Job.Calm w (w.put i { p with periodic := .died }) := .put i _ w
    exact .started ⟨_, players_put_resume hp⟩ (hresume (htouches.planned fun _ _ h => h))
      (.of_eq (trace_resume _ _ _ _))
  · have htouches : Touches i Job.Calm w
        ((w.put i { p with periodic := .waiting w.nanos }).schedule w.now i .tick) :=
      (Touches.put i _ w).trans (.schedule _ _ ⟨by decide, by decide⟩)
    refine .started ⟨.waiting w.nanos, ?_⟩ (hresume (htouches.planned fun _ _ h => h))
      (.of_eq (trace_resume _ _ _ _))
    rw [players_resume]
    exact players_put w i _ hp

theorem performs_tick (hp : w.players[i]? = some p) (t : EditTask) (interval : Duration)
    (deadline : Nat) : Performs w i p t .tick (w.tick i p interval deadline) :=
  .recorded (Or.inl rfl) ⟨_, players_put_resume hp⟩ (.of_eq (trace_resume _ _ _ _))

theorem performs_cycle (hp : w.players[i]? = some p) (t : EditTask) (identity : DriverIdentity)
    (deadline : Nat) (phase : Phase) :
    Performs w i p t .cycle (w.cycle i p identity deadline phase) := by
  obtain ⟨phase', calls, s', events, -, hstep⟩ :=
    w.step_cases p.actor (p.actor.upsert identity) phase
  have hquiet : Quiet w (w.stepped p.actor calls s' events) := quiet_stepped _ _ _ _
  unfold cycle
  rw [hstep]
  cases phase' with
  | finished result =>
    exact .recorded (Or.inr rfl) ⟨_, players_put_resume hp⟩
      (hquiet.trans (.of_eq (trace_resume _ _ _ _)))
  | stuck => exact .recorded (Or.inr rfl) ⟨_, players_put _ i _ hp⟩ (hquiet.trans (.of_eq rfl))
  | reading | writing | pausing =>
    exact .recorded (Or.inr rfl) ⟨_, players_put_resume hp⟩
      (hquiet.trans (.of_eq (trace_resume _ _ _ _)))

theorem performs_stop (hp : w.players[i]? = some p) (t : EditTask) :
    Performs w i p t .stop ((w.note p.actor .shutdown).startOwn i p) :=
  .stopped (players_put_resume hp) (trace_resume _ _ _ _)

theorem performs_own (hp : w.players[i]? = some p) (t : EditTask) {phase : Phase}
    (hown : p.own = some phase) : Performs w i p t .own (w.own i p t phase) := by
  obtain ⟨phase', calls, s', events, hturn, hstep⟩ := w.step_cases p.actor t phase
  have hquiet : Quiet w (w.stepped p.actor calls s' events) := quiet_stepped _ _ _ _
  unfold World.own
  rw [hstep]
  cases phase' with
  | finished result => exact .ended hown hturn (players_put _ i _ hp) ⟨_, rfl⟩
  | stuck =>
    have hdied : ∀ result, Occurrence.ended .died ≠ .ended (.edited result) := by
      intro result h
      cases h
    exact .went hown hturn rfl (players_put _ i _ hp) (fun q hq => nomatch hq)
      (hquiet.trans (.note hdied _))
  | reading | writing | pausing =>
    exact .went hown hturn rfl (players_put_resume hp) (fun q hq => (Option.some.inj hq).symm)
      (hquiet.trans (.of_eq (trace_resume _ _ _ _)))

/-- What a job does, in one of the listed ways. -/
theorem performs_perform {identity : DriverIdentity} {interval : Duration} {stop : Nat}
    (w : World) (d : Due)
    (hp : w.players[d.player]? = some p) (hwork : p.actor.work = .runUntil identity interval stop) :
    Performs w d.player p (p.actor.removal identity) d.job (w.perform d) := by
  obtain ⟨time, i, job⟩ := d
  have hrest : ∀ {job}, job = .tick ∨ job = .cycle →
      Performs w i p (p.actor.removal identity) job w :=
    fun hjob => .recorded hjob ⟨p.periodic, hp⟩ (.of_eq rfl)
  unfold perform
  simp only [hp, hwork]
  cases job with
  | start =>
    simp only [World.start, hwork]
    exact performs_start hp _ interval stop
  | tick =>
    cases p.periodic with
    | waiting deadline => exact performs_tick hp _ interval deadline
    | editing | stopped | died => exact hrest (Or.inl rfl)
  | cycle =>
    cases p.periodic with
    | editing deadline phase => exact performs_cycle hp _ identity deadline phase
    | waiting | stopped | died => exact hrest (Or.inr rfl)
  | stop => exact performs_stop hp _
  | own =>
    cases hown : p.own with
    | none => exact .idle hown rfl
    | some phase => exact performs_own hp _ hown

end Jobs

/-! ## The invariant -/

/-- The removal `t` of an actor is made once, from the stop on: it is on its way only if the actor
was stopped, and a record that it waits to write was proposed by it. -/
structure Guarded (i : Nat) (a : Actor) (t : EditTask) (stops : Nat) (w : World) : Prop where
  player : ∃ p, w.players[i]? = some p ∧ p.actor = a ∧
    ∀ phase, p.own = some phase → t.Drafted phase ∧ phase.result? = none ∧ stops = 1
  planned : w.planned i + stops = 1

/-- Whether a job is the stop of an actor. -/
def stops (i : Nat) (d : Due) : Bool := d.player = i ∧ d.job = .stop

section Invariant

variable {i : Nat} {a : Actor} {identity : DriverIdentity} {interval : Duration} {stop : Nat}
  {count : Nat} {w : World} {d : Due}

/-- A job that is taken from the queue is taken from what is planned. -/
theorem planned_taken (hd : d ∈ w.queue) (i time : Nat) :
    w.planned i = (w.taken d time).planned i +
      if d.player = i ∧ (d.job = .start ∨ d.job = .stop) then 1 else 0 := by
  have hperm := (List.perm_cons_erase hd).countP_eq
    fun d => decide (d.player = i ∧ (d.job = .start ∨ d.job = .stop))
  rw [planned, hperm, List.countP_cons]
  simp only [decide_eq_true_eq]
  rfl

theorem doAt_of_ne (hd : d ∈ w.queue) (hi : d.player ≠ i) (time : Nat) :
    (w.doAt d time).players[i]? = w.players[i]? ∧ (w.doAt d time).planned i = w.planned i := by
  have htouches := touches_perform (w.taken d time) d
  constructor
  · exact htouches.players i (Ne.symm hi)
  · rw [planned_taken hd i time, if_neg fun hs => hi hs.1]
    exact htouches.planned fun hi' => absurd hi' hi

/-- A job of the actor itself keeps the invariant. -/
theorem Performs.guarded {w' : World} {p : Player} {t : EditTask} {job : Job}
    (h : Performs w i p t job w') (hs : w.store.Synced) (hp : w.players[i]? = some p)
    (hown : ∀ phase, p.own = some phase → t.Drafted phase ∧ phase.result? = none ∧ count = 1)
    (hplanned : w.planned i + (if job = .start ∨ job = .stop then 1 else 0) + count = 1)
    (hcalm : job ≠ .start → w'.planned i = w.planned i) :
    Guarded i p.actor t (count + (decide (job = .stop)).toNat) w' := by
  cases h with
  | started hplayer hstart hquiet =>
    obtain ⟨periodic, hplayer⟩ := hplayer
    refine ⟨⟨_, hplayer, rfl, hown⟩, ?_⟩
    rw [hstart]
    exact hplanned
  | recorded hjob hplayer hquiet =>
    obtain ⟨periodic, hplayer⟩ := hplayer
    rcases hjob with rfl | rfl
    all_goals
      refine ⟨⟨_, hplayer, rfl, hown⟩, ?_⟩
      rw [hcalm (by decide)]
      exact hplanned
  | stopped hplayer htrace =>
    rw [if_pos (Or.inr rfl)] at hplanned
    have hcount : count + 1 = 1 := by omega
    refine ⟨⟨_, hplayer, rfl, fun phase hphase => ?_⟩, ?_⟩
    · obtain rfl : EditTask.start = phase := Option.some.inj hphase
      exact ⟨trivial, rfl, hcount⟩
    · rw [hcalm (by decide)]
      simp only [decide_true, Bool.toNat_true]
      omega
  | idle hnone hsame =>
    rw [hsame]
    exact ⟨⟨p, hp, rfl, hown⟩, hplanned⟩
  | @went _ phase phase' _ _ _ hphase hturn hresult hplayer hnext hquiet =>
    refine ⟨⟨_, hplayer, rfl, fun q hq => ?_⟩, ?_⟩
    · obtain rfl := hnext q hq
      exact ⟨hturn.drafted hs, hresult, (hown phase hphase).2.2⟩
    · rw [hcalm (by decide)]
      exact hplanned
  | ended hphase hturn hplayer htrace =>
    refine ⟨⟨_, hplayer, rfl, fun q hq => nomatch hq⟩, ?_⟩
    rw [hcalm (by decide)]
    exact hplanned

theorem Guarded.doAt (hwork : a.work = .runUntil identity interval stop) (hs : w.store.Synced)
    (h : Guarded i a (a.removal identity) count w) (hd : d ∈ w.queue) (time : Nat) :
    Guarded i a (a.removal identity) (count + (stops i d).toNat) (w.doAt d time) := by
  obtain ⟨p, hp, rfl, hown⟩ := h.player
  by_cases hi : d.player = i
  · subst hi
    have hstops : stops d.player d = decide (d.job = .stop) :=
      decide_eq_decide.2 ⟨fun hs => hs.2, fun hs => ⟨rfl, hs⟩⟩
    have hplanned := h.planned
    rw [planned_taken hd d.player time] at hplanned
    simp only [true_and] at hplanned
    have hperforms := performs_perform (w.taken d time) d hp hwork
    rw [hstops]
    refine hperforms.guarded hs hp hown hplanned fun hstart => ?_
    exact (touches_perform _ d).planned fun _ job hjob => hjob hstart
  · have hstops : stops i d = false := decide_eq_false fun hd => hi hd.1
    obtain ⟨hplayers, hplanned⟩ := doAt_of_ne hd hi time
    rw [hstops]
    exact ⟨⟨p, hplayers.trans hp, rfl, hown⟩, hplanned ▸ h.planned⟩

/-- At the beginning every actor is yet to start, and nothing else is planned. -/
theorem planned_ofActors {actors : List Actor} (ha : actors[i]? = some a) :
    (ofActors actors).planned i = 1 := by
  have hlt : i < actors.length := (List.getElem?_eq_some_iff.1 ha).1
  have hnodup : (List.range' 0 actors.length).Nodup := List.nodup_range'
  have hplaces : (actors.zipIdx.map Prod.snd).count i = 1 := by
    rw [List.zipIdx_map_snd, hnodup.count]
    exact if_pos (List.mem_range'_1.2 ⟨Nat.zero_le i, by omega⟩)
  rw [planned, ofActors, (foldl_insertDue_perm _ _).countP_eq, List.append_nil, List.countP_map,
    ← hplaces, List.count_eq_countP, List.countP_map]
  refine List.countP_congr fun x _ => ?_
  simp

theorem guarded_ofActors {actors : List Actor} (ha : actors[i]? = some a) (t : EditTask)
    (s : MemoryStore) : Guarded i a t 0 { ofActors actors with store := s } := by
  refine ⟨⟨{ actor := a }, ?_, rfl, fun phase hphase => nomatch hphase⟩, planned_ofActors ha⟩
  show (actors.map _)[i]? = _
  rw [List.getElem?_map, ha]
  rfl

theorem Guarded.runs (hwork : a.work = .runUntil identity interval stop) {actors : List Actor}
    (hchanges : ∀ a ∈ actors, a.KeepsSynced) (hsound : Sound actors w) {w' : World}
    {ds : List Due} (h : Guarded i a (a.removal identity) count w) (hruns : Runs w ds w') :
    Guarded i a (a.removal identity) (count + ds.countP (stops i)) w' := by
  induction hruns with
  | none => exact h
  | @more ds w' d hruns hd time ih =>
    rw [List.countP_append, List.countP_singleton, ← Nat.add_assoc]
    have hnext := ih.doAt hwork (hsound.runs hchanges hruns).store hd time
    cases hs : stops i d with
    | true => rwa [hs] at hnext
    | false => rwa [hs] at hnext

end Invariant

/-! ## After the removal -/

/-- The actor has nothing more to do: it is neither started nor stopped again, its periodic part has
come to an end, and no edit of it is on its way. -/
structure Gone (i : Nat) (w : World) : Prop where
  player : ∃ p, w.players[i]? = some p ∧ p.periodic = .stopped ∧ p.own = none
  planned : w.planned i = 0

section Gone

variable {i : Nat} {w w' : World} {d : Due} {p : Player}

/-- Only a step of the removal can end it. -/
theorem Performs.of_returned {t : EditTask} {job : Job} {result : EditResult}
    (h : Performs w i p t job w') (hreturned : Returned w w' p.actor result) :
    ∃ phase calls, p.own = some phase ∧ Turn t w.store phase (.finished result) calls w'.store ∧
      w'.players[i]? = some { p with periodic := .stopped, own := none } := by
  have hquiet : ¬ Quiet w w' := fun hquiet => hquiet.not_returned _ _ hreturned
  cases h with
  | started _ _ hq | recorded _ _ hq | went _ _ _ _ _ hq => exact absurd hq hquiet
  | idle _ hsame => exact absurd (.of_eq (congrArg World.trace hsame)) hquiet
  | stopped _ htrace =>
    refine absurd ⟨_, htrace, fun e he result h => ?_⟩ hquiet
    rw [List.mem_singleton.1 he] at h
    cases h
  | ended hown hturn hplayer hreturned' =>
    obtain rfl := hreturned'.unique hreturned
    exact ⟨_, _, hown, hturn, hplayer⟩

/-- What is left in the queue of an actor that is gone is left undone. -/
theorem perform_of_gone (w : World) (hp : w.players[d.player]? = some p)
    (hperiodic : p.periodic = .stopped) (hown : p.own = none) (hstart : d.job ≠ .start)
    (hstop : d.job ≠ .stop) : w.perform d = w := by
  obtain ⟨time, i, job⟩ := d
  unfold perform
  simp only [hp, hperiodic, hown]
  cases job with
  | start => exact absurd rfl hstart
  | stop => exact absurd rfl hstop
  | tick | cycle | own =>
    cases p.actor.work with
    | runUntil | syncLoop | edit | change => rfl

theorem Gone.doAt (h : Gone i w) (hd : d ∈ w.queue) (time : Nat) :
    Gone i (w.doAt d time) ∧
      (d.player = i → (w.doAt d time).store = w.store ∧ (w.doAt d time).trace = w.trace) := by
  obtain ⟨p, hp, hperiodic, hown⟩ := h.player
  by_cases hi : d.player = i
  · subst hi
    have hplanned := h.planned
    rw [planned_taken hd d.player time] at hplanned
    obtain ⟨hplanned, hno⟩ := Nat.add_eq_zero_iff.1 hplanned
    have hcalm : ¬(d.job = .start ∨ d.job = .stop) := by
      intro hjob
      rw [if_pos ⟨rfl, hjob⟩] at hno
      cases hno
    rw [not_or] at hcalm
    have hsame := perform_of_gone (w.taken d time) hp hperiodic hown hcalm.1 hcalm.2
    rw [World.doAt, hsame]
    exact ⟨⟨⟨p, hp, hperiodic, hown⟩, hplanned⟩, fun _ => ⟨rfl, rfl⟩⟩
  · obtain ⟨hplayers, hplanned⟩ := doAt_of_ne hd hi time
    refine ⟨⟨⟨p, hplayers.trans hp, hperiodic, hown⟩, ?_⟩, fun hi' => absurd hi' hi⟩
    rw [hplanned, h.planned]

theorem Gone.runs (h : Gone i w) {ds : List Due} (hruns : Runs w ds w') : Gone i w' := by
  induction hruns with
  | none => exact h
  | more _ hd time ih => exact (ih.doAt hd time).1

end Gone

/-! ## One job at any moment -/

section Moment

variable {i : Nat} {a : Actor} {identity : DriverIdentity} {interval : Duration} {stop : Nat}
  {count : Nat} {w : World} {d : Due}

/-- The stop begins the removal and leaves the periodic part as it is. -/
theorem Guarded.doAt_stop (hwork : a.work = .runUntil identity interval stop)
    (h : Guarded i a (a.removal identity) count w) (hd : d ∈ w.queue) (time : Nat)
    (hi : d.player = i) (hjob : d.job = .stop) :
    w.own? i = none ∧ (w.doAt d time).own? i = some EditTask.start ∧
      (w.doAt d time).periodic? i = w.periodic? i ∧
      (w.doAt d time).trace = w.trace ++ [⟨time, a.name, .shutdown⟩] := by
  obtain ⟨p, hp, rfl, hown⟩ := h.player
  have hplanned := h.planned
  rw [planned_taken hd i time, if_pos ⟨hi, Or.inr hjob⟩] at hplanned
  subst hi
  have hperforms := performs_perform (w.taken d time) d hp hwork
  rw [hjob] at hperforms
  have hnone : p.own = none := by
    refine Option.eq_none_iff_forall_ne_some.2 fun phase hphase => ?_
    have hcount := (hown phase hphase).2.2
    omega
  cases hperforms with
  | recorded hjob' => rcases hjob' with hjob' | hjob' <;> cases hjob'
  | stopped hplayer htrace =>
    refine ⟨?_, ?_, ?_, htrace⟩
    · rw [own?, hp, Option.bind_some, hnone]
    · rw [own?, World.doAt, hplayer]
      rfl
    · rw [periodic?, periodic?, World.doAt, hplayer, hp]
      rfl

/-- Nothing but the stop begins the removal. -/
theorem Guarded.own?_doAt (hwork : a.work = .runUntil identity interval stop)
    (h : Guarded i a (a.removal identity) count w) (hd : d ∈ w.queue) (time : Nat)
    (hstop : ¬(d.player = i ∧ d.job = .stop)) (hown : w.own? i = none) :
    (w.doAt d time).own? i = none := by
  obtain ⟨p, hp, rfl, -⟩ := h.player
  rw [own?, hp, Option.bind_some] at hown
  by_cases hi : d.player = i
  · subst hi
    have hperforms := performs_perform (w.taken d time) d hp hwork
    rw [own?, World.doAt]
    generalize hjob : d.job = job at hperforms
    cases hperforms with
    | started hplayer | recorded _ hplayer =>
      obtain ⟨periodic, hplayer⟩ := hplayer
      rw [hplayer, Option.bind_some, hown]
    | stopped => exact absurd ⟨rfl, hjob⟩ hstop
    | idle _ hsame =>
      rw [hsame]
      show (w.players[d.player]?).bind _ = none
      rw [hp, Option.bind_some, hown]
    | went hphase | ended hphase =>
      rw [hown] at hphase
      cases hphase
  · rw [own?, (doAt_of_ne hd hi time).1, hp, Option.bind_some, hown]

/-- When the removal has succeeded, the driver has no entry, and the actor is gone. -/
theorem Guarded.doAt_returned (hwork : a.work = .runUntil identity interval stop)
    (hkey : a.reconciler.key ≠ "") (hs : w.store.Synced)
    (h : Guarded i a (a.removal identity) count w) (hd : d ∈ w.queue) (time : Nat)
    (hi : d.player = i) {outcome : EditOutcome}
    (hreturned : Returned w (w.doAt d time) a (.ok outcome)) :
    (∃ m, DriverMap.decode ((w.doAt d time).store.value? a.node a.reconciler.key) = .ok m ∧
      m.get? identity.name = none) ∧ Gone i (w.doAt d time) := by
  have hnext := h.doAt hwork hs hd time
  obtain ⟨p, hp, rfl, hown⟩ := h.player
  subst hi
  have hperforms := performs_perform (w.taken d time) d hp hwork
  obtain ⟨phase, calls, hphase, hturn, hplayer⟩ := hperforms.of_returned hreturned
  obtain ⟨hdrafted, hresult, hcount⟩ := hown phase hphase
  constructor
  · obtain ⟨m, hm, hholds⟩ := hturn.holds_of_ok hkey hdrafted hresult
    exact ⟨m, hm, DriverEdit.holds_iff.1 hholds⟩
  · have hplanned := hnext.planned
    exact ⟨⟨_, hplayer, rfl, rfl⟩, by omega⟩

end Moment

/-! ## The theorem -/

/-- The removal wins, in whatever order the jobs are done.  An actor that runs until it is stopped
is stopped once at most; the stop begins the removal and leaves the periodic part as it is, and
nothing else begins it.  When the removal has succeeded, the map that the node holds at this moment
has no entry of the driver, and no job of the actor asks anything of the store any more. -/
theorem removal_wins {actors : List Actor} {i : Nat} {a : Actor} {identity : DriverIdentity}
    {interval : Duration} {stop : Nat} (ha : actors[i]? = some a)
    (hwork : a.work = .runUntil identity interval stop) (hkey : a.reconciler.key ≠ "")
    (hchanges : ∀ a ∈ actors, a.KeepsSynced) {s : MemoryStore} (hs : s.Synced) {ds : List Due}
    {w : World}
    (hw : Runs { ofActors actors with store := s } ds w) :
    (ds.countP fun d => d.player = i ∧ d.job = .stop) ≤ 1 ∧
      (∀ d ∈ w.queue, ∀ time, d.player = i → d.job = .stop →
        w.own? i = none ∧ (w.doAt d time).own? i = some EditTask.start ∧
          (w.doAt d time).periodic? i = w.periodic? i ∧
          (w.doAt d time).trace = w.trace ++ [⟨time, a.name, .shutdown⟩]) ∧
      (∀ d ∈ w.queue, ∀ time, ¬(d.player = i ∧ d.job = .stop) → w.own? i = none →
        (w.doAt d time).own? i = none) ∧
      ∀ d ∈ w.queue, ∀ time outcome, d.player = i →
        Returned w (w.doAt d time) a (.ok outcome) →
          (∃ m, DriverMap.decode ((w.doAt d time).store.value? a.node a.reconciler.key) = .ok m ∧
            m.get? identity.name = none) ∧
          ∀ ds' w', Runs (w.doAt d time) ds' w' → ∀ d' ∈ w'.queue, d'.player = i → ∀ time',
            (w'.doAt d' time').store = w'.store ∧ (w'.doAt d' time').trace = w'.trace := by
  have hsound₀ := sound_ofActors actors hs
  have h : Guarded i a (a.removal identity) (0 + ds.countP (stops i)) w :=
    (guarded_ofActors ha _ s).runs hwork hchanges hsound₀ hw
  have hsound : Sound actors w := hsound₀.runs hchanges hw
  refine ⟨?_, ?_, ?_, ?_⟩
  · have hplanned := h.planned
    show ds.countP (stops i) ≤ 1
    omega
  · intro d hd time hi hjob
    exact h.doAt_stop hwork hd time hi hjob
  · intro d hd time hstop hown
    exact h.own?_doAt hwork hd time hstop hown
  · intro d hd time outcome hi hreturned
    obtain ⟨hholds, hgone⟩ := h.doAt_returned hwork hkey hsound.store hd time hi hreturned
    refine ⟨hholds, fun ds' w' hruns d' hd' hi' time' => ?_⟩
    exact ((hgone.runs hruns).doAt hd' time').2 hi'

/-- A registrar that is stopped after its first cycle has read the node and before it has
written. -/
def hasty : Actor where
  name := "registrar"
  start := 0
  node := "n"
  reconciler := {}
  latency := .constant 0 5
  work := .runUntil ⟨"driver", "id"⟩ (.ofSeconds 60) 1

/-- Another one, who makes a node. -/
def maker : Actor where
  name := "maker"
  start := 0
  node := "other"
  reconciler := {}
  latency := .constant 0 0
  work := .change (MemoryStore.run [.insertNode "other" none])

theorem keepsSynced_hasty_maker : ∀ a ∈ [hasty, maker], a.KeepsSynced := by
  intro a ha act hact s hs
  simp only [List.mem_cons, List.not_mem_nil, or_false] at ha
  rcases ha with rfl | rfl
  · cases hact
  · exact Actor.keepsSynced_of_actions rfl act hact s hs

/-- The removal finds no entry, and the write of the cycle never comes. -/
theorem removal_wins_of_hasty :
    hasty.work = .runUntil ⟨"driver", "id"⟩ (.ofSeconds 60) 1 ∧ hasty.reconciler.key ≠ "" ∧
      (∀ a ∈ [hasty, maker], a.KeepsSynced) ∧ (MemoryStore.empty.insertNode "n" none).Synced ∧
      ∃ ds w, Runs { ofActors [hasty, maker] with store := MemoryStore.empty.insertNode "n" none }
          ds w ∧
        ∃ d ∈ w.queue, Returned w (w.doAt d 1) hasty (.ok .unchanged) ∧
          ∃ m, DriverMap.decode ((w.doAt d 1).store.value? "n" standardKey) = .ok m ∧
            m.get? "driver" = none := by
  have hwork : hasty.work = .runUntil ⟨"driver", "id"⟩ (.ofSeconds 60) 1 := rfl
  have hkey : hasty.reconciler.key ≠ "" := by decide
  have hs : (MemoryStore.empty.insertNode "n" none).Synced :=
    MemoryStore.synced_empty.insertNode "n" none
  obtain ⟨ds, hruns⟩ := runs_runFor 5 1
    { ofActors [hasty, maker] with store := MemoryStore.empty.insertNode "n" none }
  refine ⟨hwork, hkey, keepsSynced_hasty_maker, hs, ds, _, hruns, ⟨1, 0, .own⟩,
    List.mem_cons_self, ⟨_, rfl⟩, ?_⟩
  have hfirst : [hasty, maker][0]? = some hasty := rfl
  have hwins := removal_wins hfirst hwork hkey keepsSynced_hasty_maker hs hruns
  exact (hwins.2.2.2 ⟨1, 0, .own⟩ List.mem_cons_self 1 .unchanged rfl ⟨_, rfl⟩).1

end DriverRegistration.Timeline.World
