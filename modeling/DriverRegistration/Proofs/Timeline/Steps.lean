import DriverRegistration.Proofs.Timeline.Orders

/-!
# Runs step by step

A run is played by its steps, each a job of the queue and the time of the clock at which it is done
(`World.CanPlay`, `World.play`).  The run by times is played by some steps
(`World.exists_play_runFor`).  `World.tally` counts, over the steps of a run, what jobs of one kind
ask of the store.

A timeline that starts with its jobs in the order of their times keeps them so
(`World.InTime.doAt`): no job is done before the clock has come to it.
-/

namespace DriverRegistration.Timeline

open EditTask (Call Phase)

/-- The question to the store that was noted. -/
def Entry.call? (e : Entry) : Option Call :=
  match e.what with
  | .asked call => some call
  | _ => none

/-- The result of an edit that was noted. -/
def Entry.result? (e : Entry) : Option EditResult :=
  match e.what with
  | .ended (.edited result) => some result
  | _ => none

/-- The actor records a driver periodically until it is stopped. -/
def Actor.Records (a : Actor) (identity : DriverIdentity) (interval : Duration) (stop : Nat) :
    Prop :=
  a.work = .runUntil identity interval stop ∨ a.work = .syncLoop identity interval stop

namespace World

/-- The results of the edits that have ended, leaving out those of cycles. -/
def results (w : World) : List EditResult := w.trace.filterMap Entry.result?

/-- The questions that were noted between two moments. -/
def asked (w w' : World) : List Call := (w'.trace.drop w.trace.length).filterMap Entry.call?

theorem asked_of_trace {w w' : World} {entries : List Entry} (h : w'.trace = w.trace ++ entries) :
    w.asked w' = entries.filterMap Entry.call? := by
  rw [asked, h, List.drop_left]

theorem results_of_trace {w w' : World} {entries : List Entry} (h : w'.trace = w.trace ++ entries) :
    w'.results = w.results ++ entries.filterMap Entry.result? := by
  rw [results, h, List.filterMap_append, results]

theorem asked_of_trace_eq {w w' : World} (h : w'.trace = w.trace) : w.asked w' = [] := by
  rw [asked, h, List.drop_length, List.filterMap_nil]

section Stepped

variable (w : World) (a : Actor) (calls : List Call) (s : MemoryStore) (events : List Event)

theorem results_stepped : (w.stepped a calls s events).results = w.results := by
  have hnone :
      (calls.map fun c => (⟨w.now, a.name, .asked c⟩ : Entry)).filterMap Entry.result? = [] := by
    rw [List.filterMap_map]
    exact List.filterMap_eq_nil_iff.2 fun _ _ => rfl
  rw [results_of_trace (w := w) rfl, hnone, List.append_nil]

/-- What a step of an edit asks of the store is what was noted of it. -/
theorem asked_stepped {w' : World} (entries : List Entry)
    (h : w'.trace = (w.stepped a calls s events).trace ++ entries)
    (hentries : entries.filterMap Entry.call? = []) : w.asked w' = calls := by
  have hcalls : (calls.map fun c => (⟨w.now, a.name, .asked c⟩ : Entry)).filterMap Entry.call? =
      calls := by
    rw [List.filterMap_map]
    exact List.filterMap_some
  have htrace : w'.trace =
      w.trace ++ ((calls.map fun c => ⟨w.now, a.name, .asked c⟩) ++ entries) := by
    rw [h, ← List.append_assoc]
    rfl
  rw [asked_of_trace htrace, List.filterMap_append, hcalls, hentries, List.append_nil]

end Stepped

/-! ## The periodic part of an actor -/

section Periodic

variable {w : World} {i : Nat} {p : Player} {identity : DriverIdentity} {interval : Duration}
  {stop deadline : Nat} {phase : Phase}

section Jobs

variable (ha : p.actor.Records identity interval stop) (hp : w.players[i]? = some p)
include ha hp

theorem doAt_start_of_records (due time : Nat) :
    w.doAt ⟨due, i, .start⟩ time =
      (w.taken ⟨due, i, .start⟩ time).startPeriodic i p interval stop := by
  rcases ha with hwork | hwork
  · simp only [doAt, perform, taken, hp, World.start, hwork]
  · simp only [doAt, perform, taken, hp, World.start, hwork]

theorem doAt_tick (hperiodic : p.periodic = .waiting deadline) (due time : Nat) :
    w.doAt ⟨due, i, .tick⟩ time =
      (w.taken ⟨due, i, .tick⟩ time).tick i p interval deadline := by
  rcases ha with hwork | hwork
  · simp only [doAt, perform, taken, hp, hperiodic, hwork]
  · simp only [doAt, perform, taken, hp, hperiodic, hwork]

theorem doAt_cycle (hperiodic : p.periodic = .editing deadline phase) (due time : Nat) :
    w.doAt ⟨due, i, .cycle⟩ time =
      (w.taken ⟨due, i, .cycle⟩ time).cycle i p identity deadline phase := by
  rcases ha with hwork | hwork
  · simp only [doAt, perform, taken, hp, hperiodic, hwork]
  · simp only [doAt, perform, taken, hp, hperiodic, hwork]

end Jobs

variable {w' : World} {phase' : Phase}

/-- A cycle that has not ended goes on. -/
theorem cycle_of_going
    (hstep : w.step p.actor (p.actor.upsert identity) phase = (phase', w'))
    (hresult : phase'.result? = none) (hstuck : phase' ≠ .stuck) :
    w.cycle i p identity deadline phase =
      (w'.put i { p with periodic := .editing deadline phase' }).resume
        (w'.now + p.actor.wait w'.now phase') i .cycle := by
  unfold cycle
  rw [hstep]
  cases phase' with
  | finished result => cases hresult
  | stuck => exact absurd rfl hstuck
  | reading | writing | pausing => rfl

theorem cycle_of_finished {result : EditResult}
    (hstep : w.step p.actor (p.actor.upsert identity) phase = (.finished result, w')) :
    w.cycle i p identity deadline phase =
      ((w'.report (Sync.report p.actor.node identity.name result)).put i
        { p with periodic := .waiting deadline }).resume (Duration.mk deadline).ceilMillis i
          .tick := by
  rw [cycle, hstep]

end Periodic

/-! ## Steps -/

/-- The world after jobs were done one after another. -/
def play (w : World) : List (Due × Nat) → World
  | [] => w
  | (d, time) :: steps => (w.doAt d time).play steps

/-- Every job is in the queue of the moment at which it is done. -/
def CanPlay (w : World) : List (Due × Nat) → Prop
  | [] => True
  | (d, time) :: steps => d ∈ w.queue ∧ (w.doAt d time).CanPlay steps

/-- How many questions of a kind a job puts to the store, if it is a job of the given kind. -/
def share (w : World) (job : Job) (kind : Call → Bool) (d : Due) (time : Nat) : Nat :=
  if d.job = job then (w.asked (w.doAt d time)).countP kind else 0

/-- How many questions of a kind the jobs of a kind put to the store, over the steps of a run. -/
def tally (w : World) (job : Job) (kind : Call → Bool) : List (Due × Nat) → Nat
  | [] => 0
  | (d, time) :: steps => w.share job kind d time + (w.doAt d time).tally job kind steps

theorem play_append (w : World) (steps steps' : List (Due × Nat)) :
    w.play (steps ++ steps') = (w.play steps).play steps' := by
  induction steps generalizing w with
  | nil => rfl
  | cons step steps ih => exact ih _

theorem canPlay_append {w : World} {steps steps' : List (Due × Nat)} :
    w.CanPlay (steps ++ steps') ↔ w.CanPlay steps ∧ (w.play steps).CanPlay steps' := by
  induction steps generalizing w with
  | nil => exact ⟨fun h => ⟨trivial, h⟩, And.right⟩
  | cons step steps ih => exact (and_congr_right fun _ => ih).trans and_assoc.symm

theorem share_of_ne {w : World} {job : Job} {kind : Call → Bool} {d : Due} (h : d.job ≠ job)
    (time : Nat) : w.share job kind d time = 0 :=
  if_neg h

theorem share_of_asked {w : World} {job : Job} {kind : Call → Bool} {d : Due} {time : Nat}
    {calls : List Call} (hjob : d.job = job) (h : w.asked (w.doAt d time) = calls) :
    w.share job kind d time = calls.countP kind := by
  rw [share, if_pos hjob, h]

/-- The run by times is played by some steps. -/
theorem exists_play_runFor (jobs stop : Nat) (w : World) :
    ∃ steps, w.CanPlay steps ∧ w.play steps = runFor jobs stop w := by
  induction jobs generalizing w with
  | zero => exact ⟨[], trivial, rfl⟩
  | succ jobs ih =>
    rcases w.next?_cases stop with hnone | ⟨d, hd, hsome⟩
    · exact ⟨[], trivial, by rw [runFor, hnone]; rfl⟩
    · obtain ⟨steps, hcan, hplay⟩ := ih (w.doAt d d.time)
      refine ⟨(d, d.time) :: steps, ⟨hd, hcan⟩, ?_⟩
      rw [runFor, hsome]
      exact hplay

/-! ## Jobs in the order of their times -/

/-- The jobs are in the order of their times, and the clock has not passed any of them. -/
structure InTime (w : World) : Prop where
  sorted : w.queue.Pairwise fun d e => d.time ≤ e.time
  ahead : ∀ d ∈ w.queue, w.now ≤ d.time

theorem mem_insertDue {d e : Due} {queue : List Due} (h : e ∈ insertDue d queue) :
    e = d ∨ e ∈ queue := by
  have hmem := (insertDue_perm d queue).mem_iff.1 h
  exact List.mem_cons.1 hmem

theorem sorted_insertDue (d : Due) {queue : List Due}
    (h : queue.Pairwise fun d e => d.time ≤ e.time) :
    (insertDue d queue).Pairwise fun d e => d.time ≤ e.time := by
  induction queue with
  | nil => exact List.pairwise_singleton _ _
  | cons e es ih =>
    obtain ⟨hfirst, hrest⟩ := List.pairwise_cons.1 h
    unfold insertDue
    by_cases hlt : d.time < e.time
    · rw [if_pos hlt, List.pairwise_cons]
      refine ⟨fun f hf => ?_, h⟩
      rcases List.mem_cons.1 hf with rfl | hf
      · exact Nat.le_of_lt hlt
      · exact Nat.le_trans (Nat.le_of_lt hlt) (hfirst f hf)
    · rw [if_neg hlt, List.pairwise_cons]
      refine ⟨fun f hf => ?_, ih hrest⟩
      rcases mem_insertDue hf with rfl | hf
      · exact Nat.le_of_not_lt hlt
      · exact hfirst f hf

namespace InTime

variable {w w' : World} {i : Nat} {job : Job}

theorem of_eq (h : w.InTime) (hqueue : w'.queue = w.queue) (hnow : w'.now = w.now) : w'.InTime := by
  constructor
  · rw [hqueue]
    exact h.sorted
  · rw [hqueue, hnow]
    exact h.ahead

theorem schedule (h : w.InTime) {time : Nat} (htime : w.now ≤ time) :
    (w.schedule time i job).InTime := by
  refine ⟨sorted_insertDue _ h.sorted, fun d hd => ?_⟩
  rcases mem_insertDue hd with rfl | hd
  · exact htime
  · exact h.ahead d hd

theorem resume (h : w.InTime) (time : Nat) : (w.resume time i job).InTime := by
  unfold World.resume
  by_cases htime : time ≤ w.now
  · rw [if_pos htime]
    refine ⟨List.pairwise_cons.2 ⟨h.ahead, h.sorted⟩, fun d hd => ?_⟩
    rcases List.mem_cons.1 hd with rfl | hd
    · exact Nat.le_refl _
    · exact h.ahead d hd
  · rw [if_neg htime]
    exact h.schedule (Nat.le_of_not_le htime)

theorem does {a : Actor} {kinds : Job → Prop} (h : w.InTime) (hdoes : Does i a kinds w w') :
    w'.InTime := by
  induction hdoes with
  | nothing => exact h
  | resume _ time _ ih => exact ih.resume time
  | schedule _ htime _ ih => exact ih.schedule htime
  | put _ _ ih | note _ _ ih | report _ _ ih | stepped _ _ _ ih | changed _ _ ih =>
    exact ih.of_eq rfl rfl

theorem perform (h : w.InTime) (d : Due) : (w.perform d).InTime := by
  cases hp : w.players[d.player]? with
  | none => rwa [perform_of_none hp]
  | some p => exact h.does (does_perform hp)

/-- The first job is done at its time. -/
theorem doAt (h : w.InTime) {d : Due} {rest : List Due} (hq : w.queue = d :: rest) :
    (w.doAt d d.time).InTime := by
  have hsorted := h.sorted
  rw [hq, List.pairwise_cons] at hsorted
  refine perform ⟨?_, ?_⟩ d
  · show (w.queue.erase d).Pairwise _
    rw [hq, List.erase_cons_head]
    exact hsorted.2
  · show ∀ e ∈ w.queue.erase d, d.time ≤ e.time
    rw [hq, List.erase_cons_head]
    exact hsorted.1

end InTime

end World

end DriverRegistration.Timeline
