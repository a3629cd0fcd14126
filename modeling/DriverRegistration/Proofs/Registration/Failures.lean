import DriverRegistration.Registration.Handshake
import Mathlib.Data.List.Induction
import Mathlib.Data.List.TakeDrop

/-!
# Reports of failure

A service is run by any steps in any order.  What a step is answered and what it logs, and which
reasons wait after it, follows from the reasons that wait before it (`step_eq`): reports of failure
enter a queue of bounded length, from which the oldest reason is taken.

So nothing is received that was not reported, and in no other order (`received_append_sublist`), a
report that finds nobody waiting is not lost (`exists_received`), and before anything is received
the queue holds the first reports (`failures_of_unreceived`).  A handshake, which ends as soon as a
reason waits, ends with the first one (`serve_of_failed`).
-/

namespace DriverRegistration.RegistrationService

/-! ## Steps -/

/-- The reason that is received with a reply. -/
def Reply.failure? : Reply → Option String
  | .failure reason => reason
  | _ => none

namespace Step

/-- The reason that a step reports, if it is a report of failure; it is empty where none is
given. -/
def failed? : Step → Option String
  | notify message => if message.registered then none else some message.error
  | observe status => if status.registered then none else some (status.error.getD "")
  | getInfo | receive => none

/-- What a step is answered while some reasons wait. -/
def reply (info : RegistrationInfo) (waiting : List String) : Step → Reply
  | getInfo => .info info.message
  | notify _ => .acknowledged
  | observe status => .observed status.registered
  | receive => .failure waiting.head?

/-- The reasons that wait after a step.  The oldest one is taken; a reported one goes behind the
others if there is room for it. -/
def waiting (capacity : Nat) (queue : List String) (step : Step) : List String :=
  match step, step.failed? with
  | receive, _ => queue.tail
  | _, some reason => if queue.length < capacity then queue ++ [reason] else queue
  | _, none => queue

variable {capacity : Nat} {queue : List String} {step : Step} {reason : String}

theorem waiting_of_some (h : step.failed? = some reason) :
    step.waiting capacity queue =
      if queue.length < capacity then queue ++ [reason] else queue := by
  cases step with
  | getInfo => cases h
  | notify message => simp only [waiting, h]
  | observe status => simp only [waiting, h]
  | receive => cases h

theorem waiting_of_none (h : step.failed? = none) (hne : step ≠ receive) :
    step.waiting capacity queue = queue := by
  cases step with
  | getInfo => rfl
  | notify message => simp only [waiting, h]
  | observe status => simp only [waiting, h]
  | receive => exact absurd rfl hne

theorem waiting_receive : receive.waiting capacity queue = queue.tail := rfl

/-- A report of failure is not a look for a reason. -/
theorem ne_receive (h : step.failed? = some reason) : step ≠ receive := by
  rintro rfl
  cases h

theorem failure?_reply (info : RegistrationInfo) (hne : step ≠ receive) :
    (step.reply info queue).failure? = none := by
  cases step with
  | getInfo => rfl
  | notify message => rfl
  | observe status => rfl
  | receive => exact absurd rfl hne

theorem length_waiting_le (h : queue.length ≤ capacity) :
    (step.waiting capacity queue).length ≤ capacity := by
  by_cases hreceive : step = receive
  · rw [hreceive, waiting_receive, List.length_tail]
    omega
  · cases hfailed : step.failed? with
    | none => rwa [waiting_of_none hfailed hreceive]
    | some reason =>
      rw [waiting_of_some hfailed]
      split
      · rw [List.length_append, List.length_singleton]
        omega
      · exact h

theorem failed?_notify (m : StatusMessage) : (notify m).failed? = (observe m.status).failed? := by
  have hreason : m.status.error.getD "" = m.error := by
    unfold StatusMessage.status
    by_cases h : m.error = ""
    · rw [if_pos h, h]
      rfl
    · rw [if_neg h]
      rfl
  simp only [failed?, hreason]
  rfl

theorem waiting_notify (m : StatusMessage) :
    (notify m).waiting capacity queue = (observe m.status).waiting capacity queue := by
  simp only [waiting, failed?_notify]
  cases (observe m.status).failed? with
  | none => rfl
  | some reason => rfl

end Step

/-- What is logged about a report of failure. -/
def logged (info : RegistrationInfo) (reason : String) : Event :=
  .registrationFailed info.name reason

theorem observe_eq (status : RegistrationStatus) (s : RegistrationService) :
    s.observe status =
      ((status.registered, (Step.observe status).failed?.toList.map (logged s.info)),
        { s with failures := (Step.observe status).waiting s.capacity s.failures }) := by
  unfold observe
  by_cases h : status.registered = true
  · have hnone : (Step.observe status).failed? = none := if_pos h
    rw [if_pos h, hnone, Step.waiting_of_none hnone nofun, h]
    rfl
  · have hsome : (Step.observe status).failed? = some status.reason := if_neg h
    rw [if_neg h, hsome, Step.waiting_of_some hsome, enqueue, Bool.eq_false_iff.2 h]
    split
    · rfl
    · rfl

/-- A step is answered and logged, and leaves reasons waiting, by what waits before it. -/
theorem step_eq (s : RegistrationService) (step : Step) :
    s.step step =
      ((step.reply s.info s.failures, step.failed?.toList.map (logged s.info)),
        { s with failures := step.waiting s.capacity s.failures }) := by
  cases step with
  | getInfo => rfl
  | notify message =>
    rw [Step.waiting_notify, Step.failed?_notify, RegistrationService.step, observe_eq]
    rfl
  | observe status =>
    rw [RegistrationService.step, observe_eq]
    rfl
  | receive =>
    obtain ⟨info, capacity, failures⟩ := s
    cases failures with
    | nil => rfl
    | cons reason rest => rfl

theorem failures_step (s : RegistrationService) (step : Step) :
    (s.step step).2.failures = step.waiting s.capacity s.failures := by rw [step_eq]

theorem capacity_step (s : RegistrationService) (step : Step) :
    (s.step step).2.capacity = s.capacity := by rw [step_eq]

theorem info_step (s : RegistrationService) (step : Step) : (s.step step).2.info = s.info := by
  rw [step_eq]

/-! ## Runs -/

/-- The service after steps that are taken one after another. -/
def after (s : RegistrationService) (steps : List Step) : RegistrationService :=
  steps.foldl (fun s step => (s.step step).2) s

/-- The reasons that steps report. -/
def failed (steps : List Step) : List String := steps.filterMap Step.failed?

/-- The reasons that are received among what comes of steps. -/
def received (outcomes : List (Reply × List Event)) : List String :=
  outcomes.filterMap fun outcome => outcome.1.failure?

variable {info : RegistrationInfo} {capacity : Nat} {reason : String} {s : RegistrationService}
  {step : Step} {before rest steps : List Step}

theorem after_cons (s : RegistrationService) (step : Step) (steps : List Step) :
    s.after (step :: steps) = (s.step step).2.after steps := rfl

theorem after_append (s : RegistrationService) (before rest : List Step) :
    s.after (before ++ rest) = (s.after before).after rest := List.foldl_append

/-- Steps change nothing of a service but the reasons that wait. -/
theorem info_after (s : RegistrationService) (steps : List Step) :
    (s.after steps).info = s.info ∧ (s.after steps).capacity = s.capacity := by
  induction steps generalizing s with
  | nil => exact ⟨rfl, rfl⟩
  | cons step steps ih =>
    obtain ⟨hinfo, hcapacity⟩ := ih (s.step step).2
    exact ⟨hinfo.trans (info_step s step), hcapacity.trans (capacity_step s step)⟩

theorem failures_after_concat (s : RegistrationService) (before : List Step) (step : Step) :
    (s.after (before ++ [step])).failures = step.waiting s.capacity (s.after before).failures := by
  rw [after_append, ← (info_after s before).2]
  exact failures_step _ step

theorem length_failures_le (h : s.failures.length ≤ s.capacity) (steps : List Step) :
    (s.after steps).failures.length ≤ s.capacity := by
  induction steps using List.reverseRecOn with
  | nil => exact h
  | append_singleton steps step ih =>
    rw [failures_after_concat]
    exact Step.length_waiting_le ih

theorem length_run (s : RegistrationService) (steps : List Step) :
    (s.run steps).length = steps.length := by
  induction steps generalizing s with
  | nil => rfl
  | cons step steps ih => rw [run, List.length_cons, ih, List.length_cons]

theorem run_append (s : RegistrationService) (before rest : List Step) :
    s.run (before ++ rest) = s.run before ++ (s.after before).run rest := by
  induction before generalizing s with
  | nil => rfl
  | cons step before ih => rw [List.cons_append, run, ih, after_cons, run, List.cons_append]

/-- What comes of a step within a run. -/
theorem getElem?_run (s : RegistrationService) (before rest : List Step) (step : Step) :
    (s.run (before ++ step :: rest))[before.length]? =
      some (step.reply s.info (s.after before).failures,
        step.failed?.toList.map (logged s.info)) := by
  rw [run_append, List.getElem?_append_right (Nat.le_of_eq (length_run s before)), length_run,
    Nat.sub_self, run, List.getElem?_cons_zero, step_eq, (info_after s before).1]

/-! ## What is received and logged -/

theorem failed_cons_of_some (h : step.failed? = some reason) (steps : List Step) :
    failed (step :: steps) = reason :: failed steps := List.filterMap_cons_some h

theorem failed_cons_of_none (h : step.failed? = none) (steps : List Step) :
    failed (step :: steps) = failed steps := List.filterMap_cons_none h

theorem received_append (before rest : List (Reply × List Event)) :
    received (before ++ rest) = received before ++ received rest := List.filterMap_append

theorem received_of_ne (hne : step ≠ .receive) (s : RegistrationService) (steps : List Step) :
    received (s.run (step :: steps)) = received ((s.step step).2.run steps) := by
  refine List.filterMap_cons_none ?_
  rw [step_eq]
  exact Step.failure?_reply s.info hne

theorem received_of_nil (h : s.failures = []) (steps : List Step) :
    received (s.run (.receive :: steps)) = received ((s.step .receive).2.run steps) := by
  refine List.filterMap_cons_none ?_
  rw [step_eq, h]
  rfl

theorem received_of_cons {waiting : List String} (h : s.failures = reason :: waiting)
    (steps : List Step) :
    received (s.run (.receive :: steps)) = reason :: received ((s.step .receive).2.run steps) := by
  refine List.filterMap_cons_some ?_
  rw [step_eq, h]
  rfl

/-- What is received and what still waits was waiting or was reported, in this order. -/
theorem received_append_sublist (s : RegistrationService) (steps : List Step) :
    (received (s.run steps) ++ (s.after steps).failures).Sublist (s.failures ++ failed steps) := by
  induction steps generalizing s with
  | nil => exact List.nil_append _ ▸ List.sublist_append_left _ _
  | cons step steps ih =>
    -- What waits after the step was waiting or was reported by it, less what the step received.
    have hrest := ih (s.step step).2
    rw [failures_step] at hrest
    rw [after_cons]
    by_cases hreceive : step = .receive
    · subst hreceive
      rw [failed_cons_of_none rfl]
      rw [Step.waiting_receive] at hrest
      cases hwaiting : s.failures with
      | nil =>
        rw [hwaiting] at hrest
        rw [received_of_nil hwaiting]
        exact hrest
      | cons reason waiting =>
        rw [hwaiting] at hrest
        rw [received_of_cons hwaiting]
        exact hrest.cons_cons reason
    · rw [received_of_ne hreceive]
      cases hfailed : step.failed? with
      | none =>
        rw [Step.waiting_of_none hfailed hreceive] at hrest
        rwa [failed_cons_of_none hfailed]
      | some reason =>
        rw [Step.waiting_of_some hfailed] at hrest
        rw [failed_cons_of_some hfailed]
        split at hrest
        · rwa [List.append_assoc, List.singleton_append] at hrest
        · exact hrest.trans ((List.sublist_cons_self reason _).append_left _)

/-- Every report of failure is logged once, also one that is dropped, and nothing else is. -/
theorem flatMap_run (s : RegistrationService) (steps : List Step) :
    (s.run steps).flatMap Prod.snd = (failed steps).map (logged s.info) := by
  induction steps generalizing s with
  | nil => rfl
  | cons step steps ih =>
    rw [run, List.flatMap_cons, ih, step_eq]
    cases hfailed : step.failed? with
    | none =>
      rw [failed_cons_of_none hfailed]
      rfl
    | some reason =>
      rw [failed_cons_of_some hfailed]
      rfl

/-- A reason that is the oldest one to wait is the next one to be received. -/
theorem exists_received {waiting : List String} (h : s.failures = reason :: waiting)
    (hreceive : Step.receive ∈ steps) : ∃ later, received (s.run steps) = reason :: later := by
  induction steps generalizing s waiting with
  | nil => cases hreceive
  | cons step steps ih =>
    by_cases hstep : step = .receive
    · subst hstep
      exact ⟨_, received_of_cons h steps⟩
    · have hrest : Step.receive ∈ steps :=
        (List.mem_cons.1 hreceive).resolve_left (Ne.symm hstep)
      obtain ⟨waiting', hwaiting⟩ : ∃ waiting', (s.step step).2.failures = reason :: waiting' := by
        rw [failures_step, h]
        cases hfailed : step.failed? with
        | none => exact ⟨waiting, Step.waiting_of_none hfailed hstep⟩
        | some reason' =>
          rw [Step.waiting_of_some hfailed]
          split
          · exact ⟨waiting ++ [reason'], rfl⟩
          · exact ⟨waiting, rfl⟩
      rw [received_of_ne hstep]
      exact ih hwaiting hrest

/-- As long as nothing is received, the reasons that came first wait. -/
theorem failures_of_unreceived (h : s.failures.length ≤ s.capacity) (hno : Step.receive ∉ steps) :
    (s.after steps).failures = (s.failures ++ failed steps).take s.capacity := by
  induction steps generalizing s with
  | nil =>
    change s.failures = (s.failures ++ []).take s.capacity
    rw [List.append_nil, List.take_of_length_le h]
  | cons step steps ih =>
    have hne : step ≠ .receive := fun hstep => hno (hstep ▸ List.mem_cons_self)
    have hbound : (s.step step).2.failures.length ≤ (s.step step).2.capacity := by
      rw [failures_step, capacity_step]
      exact Step.length_waiting_le h
    rw [after_cons, ih hbound fun hmem => hno (List.mem_cons_of_mem step hmem), failures_step,
      capacity_step]
    cases hfailed : step.failed? with
    | none => rw [failed_cons_of_none hfailed, Step.waiting_of_none hfailed hne]
    | some reason =>
      rw [failed_cons_of_some hfailed, Step.waiting_of_some hfailed]
      split
      · rw [List.append_assoc, List.singleton_append]
      · have hfull : s.capacity ≤ s.failures.length := by omega
        rw [List.take_append_of_le_length hfull, List.take_append_of_le_length hfull]

/-! ## Handshakes -/

theorem step_ne_receive (call : WatcherCall) : call.step ≠ .receive := by
  cases call with
  | getInfo => nofun
  | notify message => nofun

theorem step_of_none (hfailed : step.failed? = none) (hne : step ≠ .receive)
    (s : RegistrationService) : s.step step = ((step.reply s.info s.failures, []), s) := by
  rw [step_eq, Step.waiting_of_none hfailed hne, hfailed]
  rfl

theorem serve_cons_of_none {call : WatcherCall} (hwaiting : s.failures = [])
    (hcall : call.step.failed? = none) (calls : List WatcherCall) :
    Handshake.serve s (call :: calls) =
      ⟨some (call.step.reply s.info []) :: (Handshake.serve s calls).answers,
        (Handshake.serve s calls).ending, (Handshake.serve s calls).events⟩ := by
  have hreceive : s.receive = (none, s) := by rw [receive, hwaiting]
  simp only [Handshake.serve, step_of_none hcall (step_ne_receive call), hreceive, hwaiting,
    List.nil_append]

/-- A watcher that reports no failure is answered all its calls. -/
theorem serve_of_registered {calls : List WatcherCall} (hwaiting : s.failures = [])
    (hcalls : ∀ call ∈ calls, call.step.failed? = none) :
    Handshake.serve s calls =
      ⟨calls.map fun call => some (call.step.reply s.info []), .ok (), []⟩ := by
  induction calls with
  | nil => rfl
  | cons call calls ih =>
    have hrest := ih fun call hmem => hcalls call (List.mem_cons_of_mem _ hmem)
    rw [serve_cons_of_none hwaiting (hcalls call List.mem_cons_self), hrest]
    rfl

/-- The first failure that a watcher reports ends the handshake. -/
theorem serve_of_failed {before rest : List WatcherCall} {call : WatcherCall}
    (hcapacity : 0 < s.capacity) (hwaiting : s.failures = [])
    (hbefore : ∀ call ∈ before, call.step.failed? = none)
    (hcall : call.step.failed? = some reason) :
    Handshake.serve s (before ++ call :: rest) =
      ⟨(before.map fun call => some (call.step.reply s.info [])) ++ [none],
        .error (.registrationFailed reason), [logged s.info reason]⟩ := by
  induction before with
  | nil =>
    have hqueue : (s.step call.step).2.failures = [reason] := by
      rw [failures_step, Step.waiting_of_some hcall, hwaiting]
      exact if_pos hcapacity
    have hevents : (s.step call.step).1.2 = [logged s.info reason] := by
      rw [step_eq, hcall]
      rfl
    rw [List.nil_append, Handshake.serve]
    generalize s.step call.step = outcome at hqueue hevents
    obtain ⟨⟨reply, events⟩, next⟩ := outcome
    obtain rfl : events = [logged s.info reason] := hevents
    obtain ⟨info, capacity, failures⟩ := next
    obtain rfl : failures = [reason] := hqueue
    rfl
  | cons first before ih =>
    have hrest := ih fun call hmem => hbefore call (List.mem_cons_of_mem _ hmem)
    rw [List.cons_append, serve_cons_of_none hwaiting (hbefore first List.mem_cons_self), hrest]
    rfl

/-! ## The theorem -/

/-- Reported reasons are received in their order, the first ones of those that find nobody
receiving, and every report of failure is logged.  So a handshake is ended by the first failure that
is reported. -/
theorem failures_in_order (hs : new? info capacity = some s) :
    (∀ before step rest,
      (s.run (before ++ step :: rest))[before.length]? =
        some (step.reply info (s.after before).failures, step.failed?.toList.map (logged info)) ∧
      (s.after before).failures.length ≤ capacity ∧
      (s.after (before ++ [step])).failures = step.waiting capacity (s.after before).failures) ∧
    (∀ steps, (received (s.run steps) ++ (s.after steps).failures).Sublist (failed steps) ∧
      (s.run steps).flatMap Prod.snd = (failed steps).map (logged info)) ∧
    (∀ before step rest reason, (s.after before).failures = [] → step.failed? = some reason →
      Step.receive ∈ rest →
      ∃ later, received (s.run (before ++ step :: rest)) =
        received (s.run before) ++ reason :: later) ∧
    (∀ before, Step.receive ∉ before → (s.after before).failures = (failed before).take capacity ∧
      ((s.after before).step .receive).1.1 = .failure (failed before).head?) ∧
    (∀ calls, (∀ call ∈ calls, call.step.failed? = none) →
      Handshake.run info calls =
        ⟨calls.map fun call => some (call.step.reply info []), .ok (), []⟩) ∧
    ∀ before call rest reason, (∀ call ∈ before, call.step.failed? = none) →
      call.step.failed? = some reason →
      Handshake.run info (before ++ call :: rest) =
        ⟨(before.map fun call => some (call.step.reply info [])) ++ [none],
          .error (.registrationFailed reason), [logged info reason]⟩ := by
  obtain ⟨hpos, rfl⟩ : 0 < capacity ∧ s = { info, capacity } := by
    unfold new? at hs
    split at hs
    · cases hs
    · exact ⟨by omega, (Option.some.inj hs).symm⟩
  refine ⟨?_, ?_, ?_, ?_, ?_, ?_⟩
  · intro before step rest
    exact ⟨getElem?_run _ before rest step, length_failures_le (Nat.zero_le _) before,
      failures_after_concat _ before step⟩
  · intro steps
    exact ⟨received_append_sublist _ steps, flatMap_run _ steps⟩
  · intro before step rest reason hempty hfailed hreceive
    have hqueue : ((RegistrationService.mk info capacity []).after (before ++ [step])).failures =
        [reason] := by
      rw [failures_after_concat, hempty, Step.waiting_of_some hfailed]
      exact if_pos hpos
    obtain ⟨later, hlater⟩ := exists_received hqueue hreceive
    refine ⟨later, ?_⟩
    rw [run_append, received_append, received_of_ne (Step.ne_receive hfailed), ← hlater,
      after_append]
    rfl
  · intro before hno
    have hwaiting := failures_of_unreceived (s := { info, capacity }) (Nat.zero_le _) hno
    refine ⟨hwaiting, ?_⟩
    rw [step_eq, hwaiting]
    exact congrArg Reply.failure (List.head?_take.trans (if_neg (Nat.ne_of_gt hpos)))
  · intro calls hcalls
    exact serve_of_registered rfl hcalls
  · intro before call rest reason hbefore hcall
    exact serve_of_failed Nat.one_pos rfl hbefore hcall

/-- A queue of one reason keeps the first of two reports; a report that comes after that one was
received is received next. -/
theorem failures_in_order_of_two_reports :
    ∃ s, new? (.ofDriver "a" "/a.sock" []) 1 = some s ∧
      Step.receive ∉ [.notify ⟨false, "taken"⟩, .observe ⟨false, none⟩] ∧
      ((s.after [.notify ⟨false, "taken"⟩, .observe ⟨false, none⟩]).step .receive).1.1 =
        .failure (some "taken") ∧
      (s.after [.notify ⟨false, "taken"⟩, .receive]).failures = [] ∧
      (Step.observe ⟨false, none⟩).failed? = some "" ∧
      ∃ later,
        received (s.run [.notify ⟨false, "taken"⟩, .receive, .observe ⟨false, none⟩, .receive]) =
          received (s.run [.notify ⟨false, "taken"⟩, .receive]) ++ "" :: later := by
  have hs : new? (.ofDriver "a" "/a.sock" []) 1 =
      some { info := .ofDriver "a" "/a.sock" [], capacity := 1 } := rfl
  obtain ⟨-, -, hlost, hfirst, -⟩ := failures_in_order hs
  have hno : Step.receive ∉ [.notify ⟨false, "taken"⟩, .observe ⟨false, none⟩] := by decide
  refine ⟨_, hs, hno, (hfirst _ hno).2, rfl, rfl, ?_⟩
  exact hlost [.notify ⟨false, "taken"⟩, .receive] (.observe ⟨false, none⟩) [.receive] "" rfl rfl
    (by decide)

end DriverRegistration.RegistrationService
