import DriverRegistration.Timeline.Actor

/-!
# Running a timeline

A timeline keeps the jobs that are due, ordered by time.  The clock jumps to the first of them,
which is done as a whole; an actor that need not wait goes on at once, before anything else that is
due at the same time.  The periodic part of an actor and its own edit are two lines of jobs: they
come between each other, and the end of the edit stops the periodic part.
-/

namespace DriverRegistration.Timeline

open EditTask (Phase)

/-- The state of the periodic part of an actor.  Deadlines are in nanoseconds. -/
inductive Periodic where
  /-- The next cycle is due at a deadline. -/
  | waiting (deadline : Nat)
  /-- A cycle is going on; the next one is due at a deadline. -/
  | editing (deadline : Nat) (phase : Phase)
  /-- There is none, or it was stopped. -/
  | stopped
  /-- It could not go on. -/
  | died

/-- An actor on the way. -/
structure Player where
  actor : Actor
  periodic : Periodic := .stopped
  /-- The edit that the actor makes besides: its only one, or the removal at the end. -/
  own : Option Phase := none

/-- What is due for an actor. -/
inductive Job where
  | start
  /-- The start of a cycle. -/
  | tick
  /-- The next step of a cycle. -/
  | cycle
  /-- The end of the periodic part. -/
  | stop
  /-- The next step of the edit besides. -/
  | own
  deriving DecidableEq, Repr

/-- A job, its time, and the place of its actor among all. -/
structure Due where
  time : Nat
  player : Nat
  job : Job
  deriving DecidableEq, Repr

/-- Place a job behind those that are not due later. -/
def insertDue (d : Due) : List Due → List Due
  | [] => [d]
  | e :: es => if d.time < e.time then d :: e :: es else e :: insertDue d es

/-- A timeline at a moment. -/
structure World where
  now : Nat
  store : MemoryStore
  players : List Player
  /-- The jobs that are due, the first one first. -/
  queue : List Due
  trace : List Entry
  log : List Event

namespace World

/-- A timeline on which every actor is yet to start. -/
def ofActors (actors : List Actor) : World where
  now := 0
  store := .empty
  players := actors.map ({ actor := · })
  queue := (actors.zipIdx.map fun (a, i) => ⟨a.start, i, .start⟩).foldl
    (fun q d => insertDue d q) []
  trace := []
  log := []

/-- Add a job that comes after all that is due at its time. -/
def schedule (w : World) (time i : Nat) (job : Job) : World :=
  { w with queue := insertDue ⟨time, i, job⟩ w.queue }

/-- Let an actor go on with a job at a time; it goes on at once if the time has come. -/
def resume (w : World) (time i : Nat) (job : Job) : World :=
  if time ≤ w.now then { w with queue := ⟨w.now, i, job⟩ :: w.queue } else w.schedule time i job

/-- Note what happened to an actor. -/
def note (w : World) (a : Actor) (what : Occurrence) : World :=
  { w with trace := w.trace ++ [⟨w.now, a.name, what⟩] }

/-- Add events to the log. -/
def report (w : World) (events : List Event) : World := { w with log := w.log ++ events }

/-- Replace the state of an actor. -/
def put (w : World) (i : Nat) (p : Player) : World := { w with players := w.players.set i p }

/-- Let the next step of an edit of an actor take effect.  Gives the phase it leads to. -/
def step (w : World) (a : Actor) (t : EditTask) (phase : Phase) : Phase × World :=
  let (progress, store) := t.advance MemoryStore.store phase w.store
  let w := progress.calls.foldl (fun w c => w.note a (.asked c)) { w with store }
  (progress.phase, w.report progress.events)

/-- The time of the clock in nanoseconds. -/
def nanos (w : World) : Nat := w.now * 1000000

/-- Start the periodic part of an actor, and let it be stopped at a time.  A period of no time is
none to wait for. -/
def startPeriodic (w : World) (i : Nat) (p : Player) (interval : Duration) (stop : Nat) : World :=
  let w :=
    if interval.nanos = 0 then w.put i { p with periodic := .died }
    else (w.put i { p with periodic := .waiting w.nanos }).schedule w.now i .tick
  w.resume stop i .stop

/-- Start the edit that an actor makes besides. -/
def startOwn (w : World) (i : Nat) (p : Player) : World :=
  (w.put i { p with own := some EditTask.start }).resume
    (w.now + p.actor.wait w.now EditTask.start) i .own

/-- Start an actor. -/
def start (w : World) (i : Nat) (p : Player) : World :=
  match p.actor.work with
  | .runUntil _ interval stop | .syncLoop _ interval stop => w.startPeriodic i p interval stop
  | .edit _ => w.startOwn i p
  | .change act => { w with store := act w.store }.note p.actor (.ended .changed)

/-- Start a cycle. -/
def tick (w : World) (i : Nat) (p : Player) (interval : Duration) (deadline : Nat) : World :=
  let next := Sync.nextDeadline interval.nanos deadline w.nanos
  (w.put i { p with periodic := .editing next EditTask.start }).resume
    (w.now + p.actor.wait w.now EditTask.start) i .cycle

/-- Let the next step of a cycle take effect. -/
def cycle (w : World) (i : Nat) (p : Player) (identity : DriverIdentity) (deadline : Nat)
    (phase : Phase) : World :=
  let (phase, w) := w.step p.actor (p.actor.upsert identity) phase
  match phase with
  | .finished result =>
    ((w.report (Sync.report p.actor.node identity.name result)).put i
      { p with periodic := .waiting deadline }).resume (Duration.mk deadline).ceilMillis i .tick
  | .stuck => w.put i { p with periodic := .died }
  | phase =>
    (w.put i { p with periodic := .editing deadline phase }).resume
      (w.now + p.actor.wait w.now phase) i .cycle

/-- Stop the periodic part of an actor that does nothing else. -/
def stop (w : World) (i : Nat) (p : Player) : World :=
  (w.put i { p with periodic := .stopped }).note p.actor
    (.ended (match p.periodic with
      | .died => .died
      | _ => .stopped))

/-- End the edit that an actor makes besides, and with it the periodic part. -/
def finishOwn (w : World) (i : Nat) (p : Player) (result : EditResult) : World :=
  let failed : List Event := match p.actor.work, result with
    | .runUntil identity .., .error e => [.removalFailed p.actor.node identity.name e]
    | _, _ => []
  ((w.report failed).put i { p with periodic := .stopped, own := none }).note p.actor
    (.ended (.edited result))

/-- Let the next step of the edit take effect that an actor makes besides. -/
def own (w : World) (i : Nat) (p : Player) (t : EditTask) (phase : Phase) : World :=
  let (phase, w) := w.step p.actor t phase
  match phase with
  | .finished result => w.finishOwn i p result
  | .stuck => (w.put i { p with own := none }).note p.actor (.ended .died)
  | phase =>
    (w.put i { p with own := some phase }).resume (w.now + p.actor.wait w.now phase) i .own

/-- Do a job.  One that its actor is no longer ready for is left undone. -/
def perform (w : World) (d : Due) : World :=
  match w.players[d.player]? with
  | none => w
  | some p =>
    match d.job, p.actor.work, p.periodic, p.own with
    | .start, _, _, _ => w.start d.player p
    | .tick, .runUntil _ interval _, .waiting deadline, _
    | .tick, .syncLoop _ interval _, .waiting deadline, _ => w.tick d.player p interval deadline
    | .cycle, .runUntil identity .., .editing deadline phase, _
    | .cycle, .syncLoop identity .., .editing deadline phase, _ =>
      w.cycle d.player p identity deadline phase
    | .stop, .runUntil .., _, _ => (w.note p.actor .shutdown).startOwn d.player p
    | .stop, .syncLoop .., _, _ => w.stop d.player p
    | .own, .runUntil identity .., _, some phase =>
      w.own d.player p (p.actor.removal identity) phase
    | .own, .edit edit, _, some phase => w.own d.player p (p.actor.task edit) phase
    | _, _, _, _ => w

/-- Do the first job that is due by a time, if there is one. -/
def next? (w : World) (stop : Nat) : Option World :=
  match w.queue with
  | [] => none
  | d :: queue => if stop < d.time then none else some ({ w with queue, now := d.time }.perform d)

/-- Do so many jobs, as long as any is due by a time. -/
def runFor : Nat → Nat → World → World
  | 0, _, w => w
  | jobs + 1, stop, w =>
    match w.next? stop with
    | none => w
    | some w => runFor jobs stop w

end World

/-! ## The number of jobs -/

/-- How many cycles an actor can start by a time. -/
def Actor.cycles (a : Actor) (stop : Nat) : Nat :=
  match a.work with
  | .runUntil _ interval _ | .syncLoop _ interval _ =>
    if interval.nanos = 0 then 0 else (stop * 1000000) / interval.nanos + 1
  | _ => 0

/-- A bound on the jobs of an actor: every attempt of an edit takes three at most. -/
def Actor.jobs (a : Actor) (stop : Nat) : Nat :=
  (a.cycles stop + 1) * (3 * a.reconciler.retry.budget + 3)

/-- A bound on the jobs of all actors. -/
def totalJobs (actors : List Actor) (stop : Nat) : Nat :=
  actors.foldr (fun a jobs => a.jobs stop + jobs) 0

/-- Run actors up to a time. -/
def run (actors : List Actor) (stop : Nat) : World :=
  World.runFor (totalJobs actors stop) stop (.ofActors actors)

end DriverRegistration.Timeline
