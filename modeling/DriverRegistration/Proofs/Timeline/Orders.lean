import DriverRegistration.Proofs.Node.History
import DriverRegistration.Proofs.Reconcile.Turn
import DriverRegistration.Timeline.Run

/-!
# Timelines in any order

A timeline does its jobs by their times.  `World.Runs` forgets the times: at every moment any job in
the queue may be done, at any time of the clock.  What holds of all such runs holds whatever the
latencies are and however jobs of the same time are ordered; the runs of the timeline are among them
(`World.runs_runFor`).

What a job does is told part by part (`World.does_perform`), and what every part keeps is kept by
jobs and runs.  So a job of one actor leaves the others alone (`World.touches_perform`), and the
records in the store keep their names and the texts of their versions (`World.Sound.runs`).
-/

namespace DriverRegistration.Timeline

open EditTask (Phase Call Turn)

theorem insertDue_perm (d : Due) (queue : List Due) : (insertDue d queue).Perm (d :: queue) := by
  induction queue with
  | nil => exact .refl _
  | cons e es ih =>
    unfold insertDue
    split
    · exact .refl _
    · exact (ih.cons e).trans (.swap d e es)

theorem foldl_insertDue_perm (ds queue : List Due) :
    (ds.foldl (fun q d => insertDue d q) queue).Perm (ds ++ queue) := by
  induction ds generalizing queue with
  | nil => exact .refl _
  | cons d ds ih =>
    exact (ih _).trans (((insertDue_perm d queue).append_left ds).trans List.perm_middle)

/-- What the actor changes at once leaves the records in a store with their names and the texts of
their versions, as everything does that can be asked of a store
(`Actor.keepsSynced_of_actions`). -/
def Actor.KeepsSynced (a : Actor) : Prop :=
  ∀ act, a.work = .change act → ∀ s : MemoryStore, s.Synced → (act s).Synced

theorem Actor.keepsSynced_of_actions {a : Actor} {acts : List MemoryStore.Action}
    (h : a.work = .change (MemoryStore.run acts)) : a.KeepsSynced := by
  intro act hact s hs
  rw [h] at hact
  cases hact
  exact hs.run acts

/-- A job that neither starts an actor nor stops its periodic part. -/
def Job.Calm (job : Job) : Prop := job ≠ .start ∧ job ≠ .stop

namespace World

/-! ## Runs -/

/-- The moment at which a job is taken out of the queue. -/
def taken (w : World) (d : Due) (time : Nat) : World :=
  { w with queue := w.queue.erase d, now := time }

/-- Do a job of the queue at a time. -/
def doAt (w : World) (d : Due) (time : Nat) : World := (w.taken d time).perform d

/-- Any number of jobs are done one after another, each of them out of the queue of its moment. -/
inductive Runs (w : World) : List Due → World → Prop
  | none : Runs w [] w
  | more {ds : List Due} {w' : World} {d : Due} (h : Runs w ds w') (hd : d ∈ w'.queue)
      (time : Nat) : Runs w (ds ++ [d]) (w'.doAt d time)

theorem Runs.trans {w w' w'' : World} {ds ds' : List Due} (h : Runs w ds w')
    (h' : Runs w' ds' w'') : Runs w (ds ++ ds') w'' := by
  induction h' with
  | none => rwa [List.append_nil]
  | @more ds' _ d _ hd time ih =>
    rw [← List.append_assoc]
    exact .more ih hd time

theorem next?_of_due {w : World} {d : Due} {rest : List Due} {stop : Nat} (hq : w.queue = d :: rest)
    (hd : d.time ≤ stop) : w.next? stop = some (w.doAt d d.time) := by
  unfold next?
  rw [hq]
  dsimp only
  rw [if_neg (Nat.not_lt.2 hd), doAt, taken, hq, List.erase_cons_head]

theorem next?_cases (w : World) (stop : Nat) :
    w.next? stop = none ∨ ∃ d ∈ w.queue, w.next? stop = some (w.doAt d d.time) := by
  cases hq : w.queue with
  | nil =>
    left
    rw [next?, hq]
  | cons d rest =>
    by_cases hd : d.time ≤ stop
    · exact Or.inr ⟨d, List.mem_cons_self, next?_of_due hq hd⟩
    · left
      rw [next?, hq]
      exact if_pos (Nat.lt_of_not_le hd)

/-- The run by times is one of the runs in any order. -/
theorem runs_runFor (jobs stop : Nat) (w : World) : ∃ ds, Runs w ds (runFor jobs stop w) := by
  induction jobs generalizing w with
  | zero => exact ⟨[], .none⟩
  | succ jobs ih =>
    rcases w.next?_cases stop with hnone | ⟨d, hd, hsome⟩
    · exact ⟨[], by rw [runFor, hnone]; exact .none⟩
    · obtain ⟨ds, hds⟩ := ih (w.doAt d d.time)
      have hone : Runs w ([] ++ [d]) (w.doAt d d.time) := .more .none hd d.time
      have hrun : runFor (jobs + 1) stop w = runFor jobs stop (w.doAt d d.time) := by
        rw [runFor, hsome]
      exact ⟨_, hrun ▸ hone.trans hds⟩

/-! ## Parts of a job -/

section Parts

variable (w : World) (i : Nat)

theorem players_put {p : Player} (q : Player) (hp : w.players[i]? = some p) :
    (w.put i q).players[i]? = some q :=
  List.getElem?_set_self (List.getElem?_eq_some_iff.1 hp).1

@[simp] theorem players_resume (time : Nat) (job : Job) :
    (w.resume time i job).players = w.players := by
  unfold resume
  split
  · rfl
  · rfl

@[simp] theorem trace_resume (time : Nat) (job : Job) : (w.resume time i job).trace = w.trace := by
  unfold resume
  split
  · rfl
  · rfl

@[simp] theorem store_resume (time : Nat) (job : Job) : (w.resume time i job).store = w.store := by
  unfold resume
  split
  · rfl
  · rfl

/-- The job is due at its time, or now if that has passed. -/
theorem queue_resume_max (time : Nat) (job : Job) :
    (w.resume time i job).queue.Perm (⟨max w.now time, i, job⟩ :: w.queue) := by
  unfold resume
  by_cases htime : time ≤ w.now
  · rw [if_pos htime, Nat.max_eq_left htime]
  · rw [if_neg htime, Nat.max_eq_right (Nat.le_of_not_le htime)]
    exact insertDue_perm _ _

theorem queue_resume (time : Nat) (job : Job) :
    ∃ time', (w.resume time i job).queue.Perm (⟨time', i, job⟩ :: w.queue) :=
  ⟨_, w.queue_resume_max i time job⟩

/-- The world after a step of an edit: the store, what was asked of it and what was reported. -/
def stepped (a : Actor) (calls : List Call) (store : MemoryStore) (events : List Event) : World :=
  { w with
    store
    trace := w.trace ++ calls.map fun c => ⟨w.now, a.name, .asked c⟩
    log := w.log ++ events }

theorem foldl_note (a : Actor) (calls : List Call) :
    calls.foldl (fun w c => w.note a (.asked c)) w =
      { w with trace := w.trace ++ calls.map fun c => ⟨w.now, a.name, .asked c⟩ } := by
  induction calls generalizing w with
  | nil => rw [List.foldl_nil, List.map_nil, List.append_nil]
  | cons c calls ih =>
    rw [List.foldl_cons, ih]
    simp only [note, List.append_assoc, List.map_cons, List.cons_append, List.nil_append]

theorem step_eq (a : Actor) (t : EditTask) (phase : Phase) :
    w.step a t phase =
      ((t.advance MemoryStore.store phase w.store).1.phase,
        w.stepped a (t.advance MemoryStore.store phase w.store).1.calls
          (t.advance MemoryStore.store phase w.store).2
          (t.advance MemoryStore.store phase w.store).1.events) := by
  simp only [step, foldl_note]
  rfl

/-- A step of an edit on a timeline is a step against the store. -/
theorem step_cases (a : Actor) (t : EditTask) (phase : Phase) :
    ∃ phase' calls s' events, Turn t w.store phase phase' calls s' ∧
      w.step a t phase = (phase', w.stepped a calls s' events) :=
  ⟨_, _, _, _, EditTask.turn_advance t phase w.store, w.step_eq a t phase⟩

end Parts

/-! ## What a job does -/

/-- What a job of an actor does, part by part: it changes the state of its own actor, plans jobs of
the given kinds for it, and lets a step of an edit take effect on the store or a change at once. -/
inductive Does (i : Nat) (a : Actor) (kinds : Job → Prop) (w : World) : World → Prop
  | nothing : Does i a kinds w w
  | put {w' : World} {p : Player} (h : Does i a kinds w w') (hp : p.actor = a) :
      Does i a kinds w (w'.put i p)
  | resume {w' : World} {job : Job} (h : Does i a kinds w w') (time : Nat) (hjob : kinds job) :
      Does i a kinds w (w'.resume time i job)
  | schedule {w' : World} {time : Nat} {job : Job} (h : Does i a kinds w w')
      (htime : w'.now ≤ time) (hjob : kinds job) : Does i a kinds w (w'.schedule time i job)
  | note {w' : World} (h : Does i a kinds w w') (what : Occurrence) :
      Does i a kinds w (w'.note a what)
  | report {w' : World} (h : Does i a kinds w w') (events : List Event) :
      Does i a kinds w (w'.report events)
  | stepped {w' : World} {t : EditTask} {phase phase' : Phase} {calls : List Call}
      {s : MemoryStore} (h : Does i a kinds w w') (hturn : Turn t w'.store phase phase' calls s)
      (events : List Event) : Does i a kinds w (w'.stepped a calls s events)
  | changed {w' : World} {act : MemoryStore → MemoryStore} (h : Does i a kinds w w')
      (hact : a.work = .change act) : Does i a kinds w { w' with store := act w'.store }

section Jobs

variable {w w' : World} {i : Nat} {p : Player} {kinds : Job → Prop}

theorem Does.startOwn (h : Does i p.actor kinds w w') (hjob : kinds .own) :
    Does i p.actor kinds w (w'.startOwn i p) := by
  refine .resume (.put h ?_) _ hjob
  rfl

theorem does_start (hkinds : ∀ job, kinds job) : Does i p.actor kinds w (w.start i p) := by
  have hperiodic (interval : Duration) (stop : Nat) :
      Does i p.actor kinds w (w.startPeriodic i p interval stop) := by
    unfold startPeriodic
    split
    · refine .resume (.put .nothing ?_) stop (hkinds .stop)
      rfl
    · refine .resume (.schedule (.put .nothing ?_) ?_ (hkinds .tick)) stop (hkinds .stop)
      · rfl
      · exact Nat.le_refl w.now
  unfold World.start
  split
  · exact hperiodic _ _
  · exact hperiodic _ _
  · exact Does.nothing.startOwn (hkinds .own)
  · next act hact => exact .note (.changed .nothing hact) _

theorem does_tick (hjob : kinds .cycle) (interval : Duration) (deadline : Nat) :
    Does i p.actor kinds w (w.tick i p interval deadline) := by
  refine .resume (.put .nothing ?_) _ hjob
  rfl

theorem does_cycle (htick : kinds .tick) (hcycle : kinds .cycle) (identity : DriverIdentity)
    (deadline : Nat) (phase : Phase) :
    Does i p.actor kinds w (w.cycle i p identity deadline phase) := by
  obtain ⟨phase', calls, s', events, hturn, hstep⟩ :=
    w.step_cases p.actor (p.actor.upsert identity) phase
  have hstepped : Does i p.actor kinds w (w.stepped p.actor calls s' events) :=
    .stepped .nothing hturn events
  unfold World.cycle
  rw [hstep]
  cases phase' with
  | finished result =>
    refine .resume (.put (.report hstepped _) ?_) _ htick
    rfl
  | stuck =>
    refine .put hstepped ?_
    rfl
  | reading | writing | pausing =>
    refine .resume (.put hstepped ?_) _ hcycle
    rfl

theorem does_own (hjob : kinds .own) (t : EditTask) (phase : Phase) :
    Does i p.actor kinds w (w.own i p t phase) := by
  obtain ⟨phase', calls, s', events, hturn, hstep⟩ := w.step_cases p.actor t phase
  have hstepped : Does i p.actor kinds w (w.stepped p.actor calls s' events) :=
    .stepped .nothing hturn events
  unfold World.own
  rw [hstep]
  cases phase' with
  | finished result =>
    refine .note (.put (.report hstepped _) ?_) _
    rfl
  | stuck =>
    refine .note (.put hstepped ?_) _
    rfl
  | reading | writing | pausing =>
    refine .resume (.put hstepped ?_) _ hjob
    rfl

/-- Only the start of an actor plans to stop it. -/
theorem does_perform {d : Due} (hp : w.players[d.player]? = some p) :
    Does d.player p.actor (fun job => d.job ≠ .start → job.Calm) w (w.perform d) := by
  have htick : Job.Calm .tick := ⟨by decide, by decide⟩
  have hcycle : Job.Calm .cycle := ⟨by decide, by decide⟩
  have hown : Job.Calm .own := ⟨by decide, by decide⟩
  unfold World.perform
  rw [hp]
  dsimp only
  split
  · next hjob => exact does_start fun _ hne => absurd hjob hne
  · exact does_tick (fun _ => hcycle) _ _
  · exact does_tick (fun _ => hcycle) _ _
  · exact does_cycle (fun _ => htick) (fun _ => hcycle) _ _ _
  · exact does_cycle (fun _ => htick) (fun _ => hcycle) _ _ _
  · exact (Does.nothing.note .shutdown).startOwn fun _ => hown
  · refine .note (.put .nothing ?_) _
    rfl
  · exact does_own (fun _ => hown) _ _
  · exact does_own (fun _ => hown) _ _
  · exact .nothing

theorem perform_of_none {d : Due} (hp : w.players[d.player]? = none) : w.perform d = w := by
  rw [World.perform, hp]

end Jobs

/-! ## Frames -/

/-- What a job of an actor may change besides the store and what is noted: the state of the actor,
and the queue by new jobs of the actor of the given kinds. -/
structure Touches (j : Nat) (kinds : Job → Prop) (w w' : World) : Prop where
  players : ∀ i, i ≠ j → w'.players[i]? = w.players[i]?
  queue : ∃ new, w'.queue.Perm (new ++ w.queue) ∧ ∀ d ∈ new, d.player = j ∧ kinds d.job

section Frames

variable {j : Nat} {kinds : Job → Prop} {w w' w'' : World}

theorem Touches.of_eq (hplayers : w'.players = w.players) (hqueue : w'.queue = w.queue) :
    Touches j kinds w w' := by
  refine ⟨fun i _ => by rw [hplayers], [], by rw [hqueue]; exact .refl _, ?_⟩
  exact fun d hd => absurd hd List.not_mem_nil

theorem Touches.trans (h : Touches j kinds w w') (h' : Touches j kinds w' w'') :
    Touches j kinds w w'' := by
  obtain ⟨new, hnew, hkinds⟩ := h.queue
  obtain ⟨new', hnew', hkinds'⟩ := h'.queue
  refine ⟨fun i hi => (h'.players i hi).trans (h.players i hi), new' ++ new, ?_, ?_⟩
  · rw [List.append_assoc]
    exact hnew'.trans (hnew.append_left new')
  · intro d hd
    rcases List.mem_append.1 hd with hd | hd
    · exact hkinds' d hd
    · exact hkinds d hd

theorem Touches.put (j : Nat) (q : Player) (w : World) : Touches j kinds w (w.put j q) := by
  refine ⟨fun i hi => ?_, [], .refl _, fun d hd => absurd hd List.not_mem_nil⟩
  exact List.getElem?_set_ne hi.symm

theorem Touches.resume (w : World) (time : Nat) {job : Job} (hjob : kinds job) :
    Touches j kinds w (w.resume time j job) := by
  obtain ⟨time', hqueue⟩ := w.queue_resume j time job
  refine ⟨fun i _ => by rw [players_resume], [⟨time', j, job⟩], hqueue, fun d hd => ?_⟩
  rw [List.mem_singleton.1 hd]
  exact ⟨rfl, hjob⟩

theorem Touches.schedule (w : World) (time : Nat) {job : Job} (hjob : kinds job) :
    Touches j kinds w (w.schedule time j job) := by
  refine ⟨fun i _ => rfl, [⟨time, j, job⟩], insertDue_perm _ _, fun d hd => ?_⟩
  rw [List.mem_singleton.1 hd]
  exact ⟨rfl, hjob⟩

theorem Does.touches {a : Actor} (h : Does j a kinds w w') : Touches j kinds w w' := by
  induction h with
  | nothing => exact .of_eq rfl rfl
  | put _ _ ih => exact ih.trans (.put j _ _)
  | resume _ time hjob ih => exact ih.trans (.resume _ time hjob)
  | schedule _ _ hjob ih => exact ih.trans (.schedule _ _ hjob)
  | note _ _ ih | report _ _ ih | stepped _ _ _ ih | changed _ _ ih =>
    exact ih.trans (.of_eq rfl rfl)

/-- A job leaves the other actors alone, and only the start of an actor plans to stop it. -/
theorem touches_perform (w : World) (d : Due) :
    Touches d.player (fun job => d.job ≠ .start → job.Calm) w (w.perform d) := by
  cases hp : w.players[d.player]? with
  | none =>
    rw [perform_of_none hp]
    exact .of_eq rfl rfl
  | some p => exact (does_perform hp).touches

end Frames

/-! ## Records and versions stay together -/

/-- The records in the store carry their names and the texts of their versions, and the players are
these actors. -/
structure Sound (actors : List Actor) (w : World) : Prop where
  store : w.store.Synced
  players : ∀ p ∈ w.players, p.actor ∈ actors

namespace Sound

variable {actors : List Actor} {w w' : World}

theorem of_eq (h : Sound actors w) (hstore : w'.store = w.store)
    (hplayers : w'.players = w.players) : Sound actors w' := by
  constructor
  · rw [hstore]
    exact h.store
  · rw [hplayers]
    exact h.players

theorem does {i : Nat} {a : Actor} {kinds : Job → Prop} (ha : a ∈ actors) (hchange : a.KeepsSynced)
    (h : Sound actors w) (hdoes : Does i a kinds w w') : Sound actors w' := by
  induction hdoes with
  | nothing => exact h
  | put _ hp ih =>
    refine ⟨ih.store, fun q hq => ?_⟩
    rcases List.mem_or_eq_of_mem_set hq with hq | rfl
    · exact ih.players q hq
    · exact hp ▸ ha
  | resume _ time _ ih => exact ih.of_eq (store_resume _ _ _ _) (players_resume _ _ _ _)
  | schedule _ _ _ ih | note _ _ ih | report _ _ ih => exact ih.of_eq rfl rfl
  | stepped _ hturn _ ih => exact ⟨hturn.synced ih.store, ih.players⟩
  | changed _ hact ih => exact ⟨hchange _ hact _ ih.store, ih.players⟩

theorem perform (hchanges : ∀ a ∈ actors, a.KeepsSynced) (h : Sound actors w) (d : Due) :
    Sound actors (w.perform d) := by
  cases hp : w.players[d.player]? with
  | none => rwa [perform_of_none hp]
  | some p =>
    have ha : p.actor ∈ actors := h.players p (List.mem_of_getElem? hp)
    exact h.does ha (hchanges p.actor ha) (does_perform hp)

theorem runs (hchanges : ∀ a ∈ actors, a.KeepsSynced) (h : Sound actors w) {ds : List Due}
    (hruns : Runs w ds w') : Sound actors w' := by
  induction hruns with
  | none => exact h
  | @more ds w' d _ hd time ih =>
    have htaken : Sound actors (w'.taken d time) := ih.of_eq rfl rfl
    exact htaken.perform hchanges d

end Sound

theorem sound_ofActors (actors : List Actor) {s : MemoryStore} (hs : s.Synced) :
    Sound actors { ofActors actors with store := s } := by
  refine ⟨hs, fun p hp => ?_⟩
  obtain ⟨a, ha, rfl⟩ := List.mem_map.1 hp
  exact ha

end World

end DriverRegistration.Timeline
