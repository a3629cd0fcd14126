import DriverRegistration.Proofs.Reconcile.Turn
import DriverRegistration.Reconcile.Run
import Mathlib.Control.Monad.Basic

/-!
# The protocol of an edit against any store

Nothing is assumed of the store here: it answers every question with anything.  `EditTask.course`
writes down what an edit does against it, step by step and in order: the questions with their
answers, the reports and the pauses.

* `EditTask.course_attempt` is about one attempt, which loses or closes the edit.
* `EditTask.attempts_course` is about all of them, by induction on the attempts that are left.
* `EditTask.run_eq_course` ties the course to the edit that is run in one go.
* `EditTask.course_protocol` says what every course looks like.
-/

namespace DriverRegistration.EditTask

variable {σ : Type}

/-! ## Courses -/

/-- Something that an edit does. -/
inductive Act where
  | asked (call : Call)
  | reported (event : Event)
  | paused (delay : RetryPolicy.Delay)

/-- The question that an act puts to the store. -/
def Act.call? : Act → Option Call
  | asked call => some call
  | _ => none

/-- The event that an act reports. -/
def Act.event? : Act → Option Event
  | reported event => some event
  | _ => none

/-- What a step does, in order: the pause that was due, the question, and the reports. -/
def stepActs (t : EditTask) (phase : Phase) (p : Progress) : List Act :=
  (match phase with
    | .pausing attempt => [.paused (t.retry.delay attempt)]
    | _ => []) ++ (p.calls.map .asked ++ p.events.map .reported)

/-- What an edit does in so many steps from a phase on, with the phase and the store it comes to. -/
def course (store : NodeStore σ) (t : EditTask) : Nat → Phase → σ → List Act × Phase × σ
  | 0, phase, s => ([], phase, s)
  | steps + 1, phase, s =>
    let (p, s') := t.advance store phase s
    let (acts, rest) := course store t steps p.phase s'
    (t.stepActs phase p ++ acts, rest)

/-- The questions among some acts were put to the store one after another, and it has answered them
like this. -/
def Answered (store : NodeStore σ) : List Act → σ → σ → Prop
  | [], s, s' => s' = s
  | .asked (.get name answer) :: acts, s, s' =>
    answer = (store.get name s).1 ∧ Answered store acts (store.get name s).2 s'
  | .asked (.update r answer) :: acts, s, s' =>
    answer = (store.update r s).1 ∧ Answered store acts (store.update r s).2 s'
  | .reported _ :: acts, s, s' | .paused _ :: acts, s, s' => Answered store acts s s'

/-! ## Attempts -/

/-- One attempt: the answer to its read, its write with the answer to that, and what follows. -/
structure Attempt where
  read : Except StoreError NodeRecord
  write : Option (NodeRecord × Except StoreError NodeRecord)
  after : List Act

namespace Attempt

/-- What is done in an attempt, in order. -/
def acts (node : String) (a : Attempt) : List Act :=
  .asked (.get node a.read) :: ((a.write.map fun w => .asked (.update w.1 w.2)).toList ++ a.after)

/-- The write has lost to another writer. -/
def Lost (a : Attempt) : Prop := ∃ w e, a.write = some (w, .error e) ∧ e.isConflict = true

theorem not_lost_of_none {read : Except StoreError NodeRecord} {after : List Act} :
    ¬ Lost ⟨read, none, after⟩ := by
  rintro ⟨w, e, h, -⟩
  cases h

theorem not_lost_of_ok {read : Except StoreError NodeRecord} {w r : NodeRecord} {after : List Act} :
    ¬ Lost ⟨read, some (w, .ok r), after⟩ := by
  rintro ⟨w, e, h, -⟩
  cases h

theorem lost_of_error_iff {read : Except StoreError NodeRecord} {w : NodeRecord} {e : StoreError}
    {after : List Act} : Lost ⟨read, some (w, .error e), after⟩ ↔ e.isConflict = true := by
  constructor
  · rintro ⟨w', e', h, he⟩
    cases h
    exact he
  · intro he
    exact ⟨w, e, rfl, he⟩

end Attempt

/-- A record as it was read, with a driver map bound to the key and nothing else changed; an empty
key binds nothing. -/
structure Revises (t : EditTask) (r : NodeRecord) (m : DriverMap) (w : NodeRecord) : Prop where
  name : w.name = r.name
  version : w.version = r.version
  annotations : ∃ annotations, w.annotations = some annotations ∧ ∀ k, annotations.get? k =
    if t.key ≠ "" ∧ k = t.key then some m.encode else (r.annotations.getD .empty).get? k

/-- A write is made exactly if the record was read, its value decodes and the edit changes the map;
what is written is the record that was read in the same attempt with the changed map. -/
def WritesDue (t : EditTask) (a : Attempt) : Prop :=
  ∀ w, (∃ answer, a.write = some (w, answer)) ↔
    ∃ r m, a.read = .ok r ∧ DriverMap.decode (r.value? t.key) = .ok m ∧ t.edit.run m ≠ m ∧
      t.Revises r (t.edit.run m) w

/-- The end of an edit, read off its last attempt. -/
structure EndsWith (t : EditTask) (attempt : Nat) (a : Attempt) (result : EditResult) : Prop where
  updated : ∀ n, result = .ok (.updated n) ↔ attempt = n ∧ ∃ w r, a.write = some (w, .ok r)
  unchanged : result = .ok .unchanged ↔ ∃ r m, a.read = .ok r ∧
    DriverMap.decode (r.value? t.key) = .ok m ∧ t.edit.run m = m
  fetch : ∀ node e, result = .error (.fetch node e) ↔ t.node = node ∧ a.read = .error e
  corrupt : ∀ node key e, result = .error (.corrupt node key e) ↔ t.node = node ∧ t.key = key ∧
    ∃ r, a.read = .ok r ∧ DriverMap.decode (r.value? t.key) = .error e
  write : ∀ node e, result = .error (.write node e) ↔ t.node = node ∧ e.isConflict = false ∧
    ∃ w, a.write = some (w, .error e)
  exhausted : ∀ node n, result = .error (.exhausted node n) ↔ t.node = node ∧
    t.retry.budget = n ∧ attempt = t.retry.budget ∧ a.Lost

/-- An attempt after which there is another one: it has lost, is followed by one warning and one
pause, and the budget allows a further attempt. -/
structure Loses (t : EditTask) (attempt : Nat) (a : Attempt) : Prop where
  lost : a.Lost
  lt_budget : attempt < t.retry.budget
  after : ∃ w e, a.write = some (w, .error e) ∧
    a.after = [.reported (.retrying attempt (t.retry.fixedDelay? attempt) e),
      .paused (t.retry.delay attempt)]

/-- An attempt that ends the edit: nothing but errors is reported after it, and there is no
pause. -/
structure Closes (t : EditTask) (attempt : Nat) (a : Attempt) (result : EditResult) : Prop where
  not_again : ¬ (a.Lost ∧ attempt < t.retry.budget)
  after : ∀ act ∈ a.after, ∃ event, act = .reported event ∧ event.level = .error
  ends : t.EndsWith attempt a result

/-- The attempts of an edit, from the one of a number on. -/
inductive Attempts (t : EditTask) : Nat → List Attempt → EditResult → Prop
  | last {attempt : Nat} {a : Attempt} {result : EditResult} (hb : attempt ≤ t.retry.budget)
      (hw : t.WritesDue a) (h : t.Closes attempt a result) : Attempts t attempt [a] result
  | again {attempt : Nat} {a : Attempt} {as : List Attempt} {result : EditResult}
      (hw : t.WritesDue a) (h : t.Loses attempt a) (hs : Attempts t (attempt + 1) as result) :
      Attempts t attempt (a :: as) result

/-! ## What is written -/

variable {t : EditTask}

theorem revises_iff {r w : NodeRecord} {m : DriverMap} : t.Revises r m w ↔ w = t.revised r m := by
  constructor
  · rintro ⟨hname, hversion, annotations, hw, hget⟩
    have hannotations : annotations = rebind r.annotations t.key m.encode :=
      TextMap.ext_get? fun k => by rw [hget, get?_rebind_ite]
    obtain ⟨name, wannotations, version⟩ := w
    simp only at hname hversion hw
    rw [hname, hversion, hw, hannotations]
    rfl
  · rintro rfl
    exact ⟨rfl, rfl, _, rfl, get?_rebind_ite r.annotations t.key m.encode⟩

/-- A write is due exactly for what is proposed. -/
theorem writesDue_iff {a : Attempt} :
    t.WritesDue a ↔ ∀ w, (∃ answer, a.write = some (w, answer)) ↔
      ∃ r, a.read = .ok r ∧ t.proposal r = .ok (some w) := by
  simp only [WritesDue, proposal_eq_some_iff, revises_iff]
  refine forall_congr' fun w => iff_congr Iff.rfl ?_
  constructor
  · rintro ⟨r, m, hr, hm⟩
    exact ⟨r, hr, m, hm⟩
  · rintro ⟨r, hr, m, hm⟩
    exact ⟨r, m, hr, hm⟩

/-! ## One attempt -/

section Course

variable (store : NodeStore σ) (t)

theorem course_reading (steps attempt : Nat) (s : σ) :
    course store t (steps + 1) (.reading attempt) s =
      (.asked (.get t.node (store.get t.node s).1) ::
          ((t.afterRead attempt (store.get t.node s).1).2.map .reported ++
            (course store t steps (t.afterRead attempt (store.get t.node s).1).1
              (store.get t.node s).2).1),
        (course store t steps (t.afterRead attempt (store.get t.node s).1).1
          (store.get t.node s).2).2) :=
  rfl

theorem course_writing (steps attempt : Nat) (w : NodeRecord) (s : σ) :
    course store t (steps + 1) (.writing attempt w) s =
      (.asked (.update w (store.update w s).1) ::
          ((t.afterWrite attempt (store.update w s).1).2.map .reported ++
            (course store t steps (t.afterWrite attempt (store.update w s).1).1
              (store.update w s).2).1),
        (course store t steps (t.afterWrite attempt (store.update w s).1).1
          (store.update w s).2).2) :=
  rfl

theorem course_pausing (steps attempt : Nat) (s : σ) :
    course store t (steps + 1) (.pausing attempt) s =
      (.paused (t.retry.delay attempt) :: (course store t steps (.reading (attempt + 1)) s).1,
        (course store t steps (.reading (attempt + 1)) s).2) :=
  rfl

theorem course_finished (steps : Nat) (result : EditResult) (s : σ) :
    course store t steps (.finished result) s = ([], .finished result, s) := by
  induction steps with
  | zero => rfl
  | succ steps ih =>
    show ([] ++ (course store t steps (.finished result) s).1,
      (course store t steps (.finished result) s).2) = _
    rw [ih]
    rfl

theorem course_stuck (steps : Nat) (s : σ) :
    course store t steps .stuck s = ([], .stuck, s) := by
  induction steps with
  | zero => rfl
  | succ steps ih =>
    show ([] ++ (course store t steps .stuck s).1, (course store t steps .stuck s).2) = _
    rw [ih]
    rfl

end Course

section Attempt

variable {a : Attempt} {attempt : Nat} {r w : NodeRecord} {e : StoreError}

theorem writesDue_of_unread (after : List Act) : t.WritesDue ⟨.error e, none, after⟩ :=
  writesDue_iff.2 fun _ => ⟨nofun, nofun⟩

theorem writesDue_of_no_proposal (hp : ∀ w, t.proposal r ≠ .ok (some w)) (after : List Act) :
    t.WritesDue ⟨.ok r, none, after⟩ := by
  refine writesDue_iff.2 fun w => ⟨nofun, ?_⟩
  rintro ⟨r', hr, hp'⟩
  cases hr
  exact absurd hp' (hp w)

theorem writesDue_of_proposal (hp : t.proposal r = .ok (some w))
    (answer : Except StoreError NodeRecord) (after : List Act) :
    t.WritesDue ⟨.ok r, some (w, answer), after⟩ := by
  refine writesDue_iff.2 fun w' => ⟨?_, ?_⟩
  · rintro ⟨answer', hanswer⟩
    cases hanswer
    exact ⟨r, rfl, hp⟩
  · rintro ⟨r', hr, hp'⟩
    cases hr
    rw [hp] at hp'
    cases hp'
    exact ⟨answer, rfl⟩

theorem closes_of_unread : t.Closes attempt ⟨.error e, none, [.reported (.unreadable e)]⟩
    (.error (.fetch t.node e)) where
  not_again := fun h => Attempt.not_lost_of_none h.1
  after := by simp [Event.level]
  ends := by constructor <;> simp [Attempt.not_lost_of_none]

theorem closes_of_corrupt {c : CorruptMap} (hp : t.proposal r = .error c) :
    t.Closes attempt ⟨.ok r, none, [.reported (.corrupt t.key (r.value? t.key) c)]⟩
      (.error (.corrupt t.node t.key c)) where
  not_again := fun h => Attempt.not_lost_of_none h.1
  after := by simp [Event.level]
  ends := by
    have hd := proposal_eq_error_iff.1 hp
    constructor <;> simp [Attempt.not_lost_of_none, hd]

theorem closes_of_reflected (hp : t.proposal r = .ok none) :
    t.Closes attempt ⟨.ok r, none, []⟩ (.ok .unchanged) where
  not_again := fun h => Attempt.not_lost_of_none h.1
  after := by simp
  ends := by
    obtain ⟨m, hd, hholds⟩ := proposal_eq_none_iff.1 hp
    have hrun := DriverEdit.run_eq_self hholds
    constructor <;> simp [Attempt.not_lost_of_none, hd, hrun]

theorem closes_of_written {r' : NodeRecord} (hp : t.proposal r = .ok (some w)) :
    t.Closes attempt ⟨.ok r, some (w, .ok r'), []⟩ (.ok (.updated attempt)) where
  not_again := fun h => Attempt.not_lost_of_ok h.1
  after := by simp
  ends := by
    obtain ⟨m, hd, hrun, -⟩ := proposal_eq_some_iff.1 hp
    constructor <;> simp [Attempt.not_lost_of_ok, hd, hrun]

/-- A refused write is a failure of the write or the end of the budget, as its error is none that
another attempt may mend, or one. -/
theorem closes_of_failed (hp : t.proposal r = .ok (some w)) (he : e.isConflict = false) :
    t.Closes attempt ⟨.ok r, some (w, .error e), []⟩ (.error (.write t.node e)) where
  not_again := by simp [Attempt.lost_of_error_iff, he]
  after := by simp
  ends := by
    obtain ⟨m, hd, hrun, -⟩ := proposal_eq_some_iff.1 hp
    constructor
    case write =>
      intro node e'
      constructor
      · intro h
        cases h
        exact ⟨rfl, he, w, rfl⟩
      · rintro ⟨rfl, -, w', h⟩
        cases h
        rfl
    all_goals simp [Attempt.lost_of_error_iff, hd, hrun, he]

theorem closes_of_exhausted (hp : t.proposal r = .ok (some w)) (he : e.isConflict = true)
    (hb : attempt = t.retry.budget) :
    t.Closes attempt ⟨.ok r, some (w, .error e), [.reported (.exhausted t.retry.budget)]⟩
      (.error (.exhausted t.node t.retry.budget)) where
  not_again := by simp [hb]
  after := by simp [Event.level]
  ends := by
    obtain ⟨m, hd, hrun, -⟩ := proposal_eq_some_iff.1 hp
    constructor
    case write =>
      intro node e'
      refine ⟨nofun, ?_⟩
      rintro ⟨-, he', w', h⟩
      cases h
      rw [he] at he'
      cases he'
    all_goals simp [Attempt.lost_of_error_iff, hd, hrun, he, hb]

theorem loses_of_conflict (he : e.isConflict = true) (hb : attempt < t.retry.budget)
    (read : Except StoreError NodeRecord) :
    t.Loses attempt ⟨read, some (w, .error e),
      [.reported (.retrying attempt (t.retry.fixedDelay? attempt) e),
        .paused (t.retry.delay attempt)]⟩ where
  lost := Attempt.lost_of_error_iff.2 he
  lt_budget := hb
  after := ⟨w, e, rfl, rfl⟩

end Attempt

/-- A read that ends the edit is all that is done. -/
theorem course_unwritten (store : NodeStore σ) {attempt : Nat} {s s₁ : σ}
    {read : Except StoreError NodeRecord} {result : EditResult} {events : List Event}
    (hget : store.get t.node s = (read, s₁))
    (h : t.afterRead attempt read = (.finished result, events)) (n : Nat) :
    course store t (n + 1) (.reading attempt) s =
      (Attempt.acts t.node ⟨read, none, events.map .reported⟩, .finished result, s₁) := by
  rw [course_reading, hget, h, course_finished, List.append_nil]
  rfl

/-- A read that proposes a record is followed by the write of this record. -/
theorem course_written (store : NodeStore σ) {attempt : Nat} {s s₁ s₂ : σ} {r w : NodeRecord}
    {answer : Except StoreError NodeRecord} {phase : Phase} {events : List Event}
    (hget : store.get t.node s = (.ok r, s₁)) (hp : t.proposal r = .ok (some w))
    (hupdate : store.update w s₁ = (answer, s₂)) (h : t.afterWrite attempt answer = (phase, events))
    (n : Nat) :
    course store t (n + 2) (.reading attempt) s =
      (Attempt.acts t.node ⟨.ok r, some (w, answer), events.map .reported⟩ ++
        (course store t n phase s₂).1, (course store t n phase s₂).2) := by
  have hread : t.afterRead attempt (.ok r) = (.writing attempt w, []) := by
    simp only [afterRead, hp]
  rw [course_reading, hget, hread, course_writing, hupdate, h]
  rfl

theorem course_ended (store : NodeStore σ) {attempt : Nat} {s s₁ s₂ : σ} {r w : NodeRecord}
    {answer : Except StoreError NodeRecord} {result : EditResult} {events : List Event}
    (hget : store.get t.node s = (.ok r, s₁)) (hp : t.proposal r = .ok (some w))
    (hupdate : store.update w s₁ = (answer, s₂))
    (h : t.afterWrite attempt answer = (.finished result, events)) (n : Nat) :
    course store t (n + 2) (.reading attempt) s =
      (Attempt.acts t.node ⟨.ok r, some (w, answer), events.map .reported⟩, .finished result,
        s₂) := by
  rw [course_written store hget hp hupdate h, course_finished, List.append_nil]

/-- What one attempt comes to: it closes the edit within two steps or, with the pause, leads to the
next read in three. -/
inductive Goes (store : NodeStore σ) (t : EditTask) (attempt : Nat) (s : σ) (a : Attempt) : Prop
  | closing {result : EditResult} {s' : σ} (h : t.Closes attempt a result)
      (hcourse : ∀ n, course store t (n + 2) (.reading attempt) s =
        (a.acts t.node, .finished result, s')) : Goes store t attempt s a
  | losing {s' : σ} (h : t.Loses attempt a)
      (hcourse : ∀ n, course store t (n + 3) (.reading attempt) s =
        (a.acts t.node ++ (course store t n (.reading (attempt + 1)) s').1,
          (course store t n (.reading (attempt + 1)) s').2)) : Goes store t attempt s a

/-- A refused write closes the edit, unless it has lost and the budget allows another attempt. -/
theorem course_refused (store : NodeStore σ) (hdelay : ∀ n, t.retry.delay n ≠ .undefined)
    {attempt : Nat} (hb : attempt ≤ t.retry.budget) {s s₁ s₂ : σ} {r w : NodeRecord}
    {e : StoreError} (hget : store.get t.node s = (.ok r, s₁)) (hp : t.proposal r = .ok (some w))
    (hupdate : store.update w s₁ = (.error e, s₂)) :
    ∃ a, t.WritesDue a ∧ Goes store t attempt s a := by
  cases he : e.isConflict with
  | false =>
    have hwrite : t.afterWrite attempt (.error e) = (.finished (.error (.write t.node e)), []) := by
      simp [afterWrite, he]
    exact ⟨_, writesDue_of_proposal hp _ _,
      .closing (closes_of_failed hp he) (course_ended store hget hp hupdate hwrite)⟩
  | true =>
    by_cases hlt : attempt < t.retry.budget
    · have hwrite : t.afterWrite attempt (.error e) =
          (.pausing attempt, [.retrying attempt (t.retry.fixedDelay? attempt) e]) := by
        simp [afterWrite, afterConflict, he, Nat.not_le.2 hlt, hdelay]
      have hcourse : ∀ n, course store t (n + 3) (.reading attempt) s =
          (Attempt.acts t.node ⟨.ok r, some (w, .error e),
              [.reported (.retrying attempt (t.retry.fixedDelay? attempt) e),
                .paused (t.retry.delay attempt)]⟩ ++
            (course store t n (.reading (attempt + 1)) s₂).1,
            (course store t n (.reading (attempt + 1)) s₂).2) := by
        intro n
        rw [course_written store hget hp hupdate hwrite, course_pausing]
        rfl
      exact ⟨_, writesDue_of_proposal hp _ _, .losing (loses_of_conflict he hlt _) hcourse⟩
    · have hend : attempt = t.retry.budget := by omega
      have hwrite : t.afterWrite attempt (.error e) =
          (.finished (.error (.exhausted t.node t.retry.budget)), [.exhausted t.retry.budget]) := by
        simp [afterWrite, afterConflict, he, hend]
      exact ⟨_, writesDue_of_proposal hp _ _,
        .closing (closes_of_exhausted hp he hend) (course_ended store hget hp hupdate hwrite)⟩

theorem course_attempt (store : NodeStore σ) (hdelay : ∀ n, t.retry.delay n ≠ .undefined)
    (attempt : Nat) (hb : attempt ≤ t.retry.budget) (s : σ) :
    ∃ a, t.WritesDue a ∧ Goes store t attempt s a := by
  obtain ⟨read, s₁, hget⟩ : ∃ read s₁, store.get t.node s = (read, s₁) := ⟨_, _, rfl⟩
  cases read with
  | error e =>
    have hread : t.afterRead attempt (.error e) =
        (.finished (.error (.fetch t.node e)), [.unreadable e]) := rfl
    exact ⟨_, writesDue_of_unread _,
      .closing closes_of_unread fun n => course_unwritten store hget hread (n + 1)⟩
  | ok r =>
    cases hp : t.proposal r with
    | error c =>
      have hread : t.afterRead attempt (.ok r) = (.finished (.error (.corrupt t.node t.key c)),
          [.corrupt t.key (r.value? t.key) c]) := by simp only [afterRead, hp]
      exact ⟨_, writesDue_of_no_proposal (by simp [hp]) _,
        .closing (closes_of_corrupt hp) fun n => course_unwritten store hget hread (n + 1)⟩
    | ok proposed =>
      cases proposed with
      | none =>
        have hread : t.afterRead attempt (.ok r) = (.finished (.ok .unchanged), []) := by
          simp only [afterRead, hp]
        exact ⟨_, writesDue_of_no_proposal (by simp [hp]) _,
          .closing (closes_of_reflected hp) fun n => course_unwritten store hget hread (n + 1)⟩
      | some w =>
        obtain ⟨answer, s₂, hupdate⟩ : ∃ answer s₂, store.update w s₁ = (answer, s₂) := ⟨_, _, rfl⟩
        cases answer with
        | ok r' =>
          exact ⟨_, writesDue_of_proposal hp (.ok r') _,
            .closing (closes_of_written hp) (course_ended store hget hp hupdate rfl)⟩
        | error e => exact course_refused store hdelay hb hget hp hupdate

/-! ## All attempts -/

/-- The attempts that are left are made one after another.  The induction is on their number; each
takes three steps at most. -/
theorem attempts_course (store : NodeStore σ) (hdelay : ∀ n, t.retry.delay n ≠ .undefined)
    (left attempt : Nat) (hleft : attempt + left = t.retry.budget) (s : σ) :
    ∃ as result s', t.Attempts attempt as result ∧
      course store t (3 * (left + 1)) (.reading attempt) s =
        (as.flatMap (Attempt.acts t.node), .finished result, s') := by
  induction left generalizing attempt s with
  | zero =>
    obtain ⟨a, hw, hgoes⟩ := course_attempt store hdelay attempt (by omega) s
    cases hgoes with
    | @closing result s' h hcourse =>
      refine ⟨[a], result, s', .last (by omega) hw h, ?_⟩
      rw [hcourse 1, List.flatMap_singleton]
    | losing h _ => exact absurd h.lt_budget (by omega)
  | succ left ih =>
    obtain ⟨a, hw, hgoes⟩ := course_attempt store hdelay attempt (by omega) s
    cases hgoes with
    | @closing result s' h hcourse =>
      refine ⟨[a], result, s', .last (by omega) hw h, ?_⟩
      rw [show 3 * (left + 1 + 1) = 3 * left + 4 + 2 by omega, hcourse, List.flatMap_singleton]
    | @losing s' h hcourse =>
      obtain ⟨as, result, s'', has, hrest⟩ := ih (attempt + 1) (by omega) s'
      refine ⟨a :: as, result, s'', .again hw h has, ?_⟩
      rw [show 3 * (left + 1 + 1) = 3 * (left + 1) + 3 by omega, hcourse, hrest, List.flatMap_cons]

/-! ## The edit in one go -/

theorem course_add (store : NodeStore σ) (m n : Nat) (phase : Phase) (s : σ) :
    course store t (m + n) phase s =
      ((course store t m phase s).1 ++
          (course store t n (course store t m phase s).2.1 (course store t m phase s).2.2).1,
        (course store t n (course store t m phase s).2.1 (course store t m phase s).2.2).2) := by
  induction m generalizing phase s with
  | zero => rw [Nat.zero_add]; rfl
  | succ m ih =>
    rw [Nat.succ_add]
    show (t.stepActs phase _ ++ (course store t (m + n) _ _).1, (course store t (m + n) _ _).2) = _
    rw [ih, ← List.append_assoc]
    rfl

/-- What an edit has come to, from its course. -/
def Progress.ofCourse (c : List Act × Phase × σ) : Progress × σ :=
  (⟨c.2.1, c.1.filterMap Act.call?, c.1.filterMap Act.event?⟩, c.2.2)

theorem afterRead_cases (attempt : Nat) (answer : Except StoreError NodeRecord) :
    (∃ result, (t.afterRead attempt answer).1 = .finished result) ∨
      ∃ w, (t.afterRead attempt answer).1 = .writing attempt w := by
  unfold afterRead
  split
  · exact Or.inl ⟨_, rfl⟩
  · split
    · exact Or.inl ⟨_, rfl⟩
    · exact Or.inl ⟨_, rfl⟩
    · exact Or.inr ⟨_, rfl⟩

theorem afterWrite_cases (attempt : Nat) (answer : Except StoreError NodeRecord) :
    (∃ result, (t.afterWrite attempt answer).1 = .finished result) ∨
      (t.afterWrite attempt answer).1 = .stuck ∨
      (t.afterWrite attempt answer).1 = .pausing attempt := by
  cases answer with
  | ok r => exact Or.inl ⟨_, rfl⟩
  | error e =>
    rcases afterWrite_error t attempt e with ⟨h, -⟩ | h | ⟨failure, h, -⟩
    · exact Or.inr (Or.inr h)
    · exact Or.inr (Or.inl h)
    · exact Or.inl ⟨_, h⟩

/-- The questions and the reports of a step, from what it does. -/
theorem filterMap_stepActs (phase : Phase) (p : Progress) :
    (t.stepActs phase p).filterMap Act.call? = p.calls ∧
      (t.stepActs phase p).filterMap Act.event? = p.events := by
  have hcalls (calls : List Call) : (calls.map Act.asked).filterMap Act.call? = calls ∧
      (calls.map Act.asked).filterMap Act.event? = [] := by
    simp [List.filterMap_map, Function.comp_def, Act.call?, Act.event?]
  have hevents (events : List Event) : (events.map Act.reported).filterMap Act.call? = [] ∧
      (events.map Act.reported).filterMap Act.event? = events := by
    simp [List.filterMap_map, Function.comp_def, Act.call?, Act.event?]
  unfold stepActs
  split <;> simp [List.filterMap_cons, hcalls, hevents, Act.call?, Act.event?]

theorem ofCourse_one (store : NodeStore σ) (phase : Phase) (s : σ) :
    Progress.ofCourse (course store t 1 phase s) = t.advance store phase s := by
  obtain ⟨hcalls, hevents⟩ := filterMap_stepActs (t := t) phase (t.advance store phase s).1
  simp only [Progress.ofCourse, course, List.append_nil, hcalls, hevents]

/-- Some steps and the steps after them, in one go. -/
theorem ofCourse_add (store : NodeStore σ) {m : Nat} (n : Nat) {phase : Phase} {s s' : σ}
    {p : Progress} (h : Progress.ofCourse (course store t m phase s) = (p, s')) :
    Progress.ofCourse (course store t (m + n) phase s) =
      (p.append (Progress.ofCourse (course store t n p.phase s')).1,
        (Progress.ofCourse (course store t n p.phase s')).2) := by
  cases h
  simp only [Progress.ofCourse, course_add, List.filterMap_append]
  rfl

/-- Once an edit has ended, or has come to a pause that is not defined, nothing more is done. -/
theorem ofCourse_ended (store : NodeStore σ) (n : Nat) {phase : Phase} (s : σ)
    (h : (∃ result, phase = .finished result) ∨ phase = .stuck) :
    Progress.ofCourse (course store t n phase s) = ({ phase }, s) := by
  rcases h with ⟨result, rfl⟩ | rfl
  · rw [course_finished]
    rfl
  · rw [course_stuck]
    rfl

theorem append_nothing (p : Progress) : p.append { phase := p.phase } = p := by
  simp only [Progress.append, List.append_nil]

/-- In one go, an attempt is made by two steps. -/
theorem cycle_eq_course (store : NodeStore σ) (attempt : Nat) (s : σ) :
    t.cycle store attempt s = Progress.ofCourse (course store t 2 (.reading attempt) s) := by
  obtain ⟨p, s₁, hread⟩ : ∃ p s₁, t.advance store (.reading attempt) s = (p, s₁) := ⟨_, _, rfl⟩
  have hphase : p.phase = (t.afterRead attempt (store.get t.node s).1).1 :=
    (congrArg (·.1.phase) hread).symm
  have hone := (ofCourse_one store (.reading attempt) s).trans hread
  rw [ofCourse_add store 1 hone, cycle]
  simp only [hread]
  rcases t.afterRead_cases attempt (store.get t.node s).1 with ⟨result, h⟩ | ⟨w, h⟩
  · rw [ofCourse_ended store 1 s₁ (Or.inl ⟨result, hphase.trans h⟩), append_nothing, hphase.trans h]
  · rw [hphase.trans h, ofCourse_one]

/-- After the two steps of an attempt, the edit has ended or is about to pause. -/
theorem cycle_phase (store : NodeStore σ) (attempt : Nat) (s : σ) :
    ((∃ result, (t.cycle store attempt s).1.phase = .finished result) ∨
        (t.cycle store attempt s).1.phase = .stuck) ∨
      (t.cycle store attempt s).1.phase = .pausing attempt := by
  obtain ⟨p, s₁, hread⟩ : ∃ p s₁, t.advance store (.reading attempt) s = (p, s₁) := ⟨_, _, rfl⟩
  have hphase : p.phase = (t.afterRead attempt (store.get t.node s).1).1 :=
    (congrArg (·.1.phase) hread).symm
  rw [cycle]
  simp only [hread]
  rcases t.afterRead_cases attempt (store.get t.node s).1 with ⟨result, h⟩ | ⟨w, h⟩
  · simp only [hphase.trans h]
    exact Or.inl (Or.inl ⟨result, rfl⟩)
  · simp only [hphase.trans h]
    exact or_assoc.2 (t.afterWrite_cases attempt (store.update w s₁).1)

/-- In one go, an attempt takes two steps and the pause after it a third one.  Where the edit ends
sooner, the steps that are left do nothing. -/
theorem attempts_eq_course (store : NodeStore σ) (left attempt : Nat) (s : σ) :
    attempts store t left attempt s =
      Progress.ofCourse (course store t (3 * left) (.reading attempt) s) := by
  induction left generalizing attempt s with
  | zero => rfl
  | succ left ih =>
    obtain ⟨p, s₁, hcycle⟩ : ∃ p s₁, t.cycle store attempt s = (p, s₁) := ⟨_, _, rfl⟩
    have hphase := t.cycle_phase store attempt s
    have htwo := (t.cycle_eq_course store attempt s).symm.trans hcycle
    rw [show 3 * (left + 1) = 2 + (1 + 3 * left) by omega, ofCourse_add store _ htwo, attempts]
    rw [hcycle] at hphase
    simp only [hcycle]
    rcases hphase with hended | hpausing
    · rw [ofCourse_ended store _ s₁ hended, append_nothing]
      rcases hended with ⟨result, h⟩ | h <;> rw [h]
    · have hone := ofCourse_one (t := t) store (.pausing attempt) s₁
      rw [hpausing, ofCourse_add store _ hone, ← ih]
      rfl

theorem run_eq_course (store : NodeStore σ) (s : σ) :
    t.run store s = Progress.ofCourse (course store t (3 * t.retry.budget) start s) :=
  attempts_eq_course store t.retry.budget 1 s

theorem answered_append {store : NodeStore σ} {as bs : List Act} {s s' s'' : σ}
    (h : Answered store as s s') (h' : Answered store bs s' s'') :
    Answered store (as ++ bs) s s'' := by
  induction as generalizing s with
  | nil =>
    obtain rfl : s' = s := h
    exact h'
  | cons act as ih =>
    match act with
    | .asked (.get name answer) => exact ⟨h.1, ih h.2⟩
    | .asked (.update r answer) => exact ⟨h.1, ih h.2⟩
    | .reported event => exact ih h
    | .paused delay => exact ih h

theorem answered_reported (store : NodeStore σ) (events : List Event) (s : σ) :
    Answered store (events.map .reported) s s := by
  induction events with
  | nil => rfl
  | cons event events ih => exact ih

/-- The answers in a course are those of the store. -/
theorem answered_course (store : NodeStore σ) (n : Nat) (phase : Phase) (s : σ) :
    Answered store (course store t n phase s).1 s (course store t n phase s).2.2 := by
  induction n generalizing phase s with
  | zero => rfl
  | succ n ih =>
    refine answered_append ?_ (ih _ _)
    cases phase with
    | reading | writing => exact ⟨rfl, answered_reported store _ _⟩
    | pausing | finished | stuck => rfl

/-! ## The protocol -/

namespace Attempts

variable {attempt : Nat} {as : List Attempt} {result : EditResult}

theorem writesDue (h : t.Attempts attempt as result) : ∀ a ∈ as, t.WritesDue a := by
  induction h with
  | last _ hw _ => simpa using hw
  | again hw _ _ ih => exact List.forall_mem_cons.2 ⟨hw, ih⟩

theorem length_pos (h : t.Attempts attempt as result) : 1 ≤ as.length := by
  cases h <;> simp

theorem length_le (h : t.Attempts attempt as result) :
    attempt + as.length ≤ t.retry.budget + 1 := by
  induction h with
  | last hb _ _ => exact Nat.succ_le_succ hb
  | again _ _ _ ih =>
    rw [List.length_cons]
    omega

/-- Another attempt follows exactly where one has lost and the budget allows it. -/
theorem again_iff (h : t.Attempts attempt as result) {j : Nat} {a : Attempt}
    (ha : as[j]? = some a) : j + 1 < as.length ↔ a.Lost ∧ attempt + j < t.retry.budget := by
  induction h generalizing j with
  | last hb _ hc =>
    cases j with
    | zero =>
      cases ha
      exact ⟨fun hlt => absurd hlt (by simp), fun hlost => absurd hlost hc.not_again⟩
    | succ j => cases ha
  | @again attempt b as result _ hl hs ih =>
    cases j with
    | zero =>
      cases ha
      have hpos := hs.length_pos
      rw [List.length_cons]
      exact ⟨fun _ => ⟨hl.lost, hl.lt_budget⟩, fun _ => by omega⟩
    | succ j =>
      rw [List.length_cons, Nat.add_lt_add_iff_right, ih ha, Nat.add_right_comm, Nat.add_assoc]

/-- Between two attempts there is one warning and one pause. -/
theorem after_eq (h : t.Attempts attempt as result) {j : Nat} {a : Attempt}
    (ha : as[j]? = some a) (hj : j + 1 < as.length) : ∃ w e, a.write = some (w, .error e) ∧
      a.after = [.reported (.retrying (attempt + j) (t.retry.fixedDelay? (attempt + j)) e),
        .paused (t.retry.delay (attempt + j))] := by
  induction h generalizing j with
  | last _ _ _ => exact absurd hj (by simp)
  | @again attempt b as result _ hl _ ih =>
    cases j with
    | zero =>
      cases ha
      exact hl.after
    | succ j =>
      have hrest := ih ha (by simpa using hj)
      rwa [Nat.add_right_comm, Nat.add_assoc] at hrest

theorem exists_last (h : t.Attempts attempt as result) :
    ∃ a, as.getLast? = some a ∧ t.Closes (attempt + as.length - 1) a result := by
  induction h with
  | @last attempt a result _ _ hc => exact ⟨a, rfl, hc⟩
  | @again attempt b as result _ _ hs ih =>
    obtain ⟨a, ha, hc⟩ := ih
    refine ⟨a, ?_, ?_⟩
    · rw [List.getLast?_cons, ha]
      rfl
    · rwa [Nat.add_right_comm, Nat.add_assoc] at hc

end Attempts

/-- What an edit does against any store, as long as the pauses of its policy are defined.  It makes
at least one attempt and at most as many as the budget allows.  Each is one read of its node and at
most one write, which is due as `WritesDue` says.  Another attempt is begun exactly after one that
has lost, as long as the budget allows it, and after one warning and one pause.  After the last
attempt there is neither, and `EndsWith` says what the edit has come to. -/
theorem course_protocol (t : EditTask) (hdelay : ∀ n, t.retry.delay n ≠ .undefined)
    (store : NodeStore σ) (s : σ) :
    ∃ (as : List Attempt) (a : Attempt) (result : EditResult) (s' : σ),
      course store t (3 * max t.retry.attempts 1) start s =
          (as.flatMap (Attempt.acts t.node), .finished result, s') ∧
        Answered store (as.flatMap (Attempt.acts t.node)) s s' ∧
        t.run store s = (⟨.finished result, (as.flatMap (Attempt.acts t.node)).filterMap Act.call?,
          (as.flatMap (Attempt.acts t.node)).filterMap Act.event?⟩, s') ∧
        1 ≤ as.length ∧ as.length ≤ max t.retry.attempts 1 ∧
        (∀ b ∈ as, t.WritesDue b) ∧
        (∀ i b, as[i]? = some b →
          (i + 1 < as.length ↔ b.Lost ∧ i + 1 < max t.retry.attempts 1)) ∧
        (∀ i b, as[i]? = some b → i + 1 < as.length → ∃ w e, b.write = some (w, .error e) ∧
          b.after = [.reported (.retrying (i + 1) (t.retry.fixedDelay? (i + 1)) e),
            .paused (t.retry.delay (i + 1))]) ∧
        as.getLast? = some a ∧
        (∀ act ∈ a.after, ∃ event, act = .reported event ∧ event.level = .error) ∧
        t.EndsWith as.length a result := by
  have hbudget : t.retry.budget = max t.retry.attempts 1 := rfl
  have hpos : 1 ≤ t.retry.budget := Nat.le_max_right _ _
  obtain ⟨as, result, s', has, hcourse⟩ := attempts_course store hdelay
    (t.retry.budget - 1) 1 (by omega) s
  rw [show t.retry.budget - 1 + 1 = t.retry.budget by omega] at hcourse
  obtain ⟨a, hlast, hcloses⟩ := has.exists_last
  have hlen := has.length_le
  rw [show 1 + as.length - 1 = as.length by omega] at hcloses
  rw [← hbudget]
  refine ⟨as, a, result, s', hcourse, ?_, ?_, has.length_pos, by omega, has.writesDue, ?_, ?_,
    hlast, hcloses.after, hcloses.ends⟩
  · have hanswered := answered_course (t := t) store (3 * t.retry.budget) start s
    rwa [show course store t (3 * t.retry.budget) start s = _ from hcourse] at hanswered
  · rw [run_eq_course, show course store t (3 * t.retry.budget) start s = _ from hcourse]
    rfl
  · intro i b hb
    rw [has.again_iff hb, Nat.add_comm 1 i]
  · intro i b hb hi
    have hafter := has.after_eq hb hi
    rwa [Nat.add_comm 1 i] at hafter

/-- A driver that is recorded on a node. -/
def oneRecording : EditTask := { node := "n", edit := .upsert "a" "1" }

/-- The node of the recording, which another writer is about to touch. -/
def touchedNode : MemoryStore := (MemoryStore.empty.insertNode "n" none).injectConflicts 1

theorem delay_standard_ne_undefined (n : Nat) : RetryPolicy.standard.delay n ≠ .undefined := by
  have hnan : RetryPolicy.standard.jitterFraction.isNaN = false := by decide +kernel
  unfold RetryPolicy.delay
  rw [hnan]
  split <;> simp

/-- The first attempt loses to another writer, and the second one writes. -/
theorem course_protocol_of_conflict :
    (∀ n, oneRecording.retry.delay n ≠ .undefined) ∧
      ∃ (as : List Attempt) (s' : MemoryStore), as.length = 2 ∧
        course MemoryStore.store oneRecording (3 * max oneRecording.retry.attempts 1) start
          touchedNode = (as.flatMap (Attempt.acts "n"), .finished (.ok (.updated 2)), s') := by
  have hdelay : ∀ n, oneRecording.retry.delay n ≠ .undefined := delay_standard_ne_undefined
  obtain ⟨as, a, result, s', hcourse, -, -, -, -, -, -, -, -, -, hends⟩ :=
    course_protocol oneRecording hdelay MemoryStore.store touchedNode
  have hresult : (course MemoryStore.store oneRecording (3 * max oneRecording.retry.attempts 1)
      start touchedNode).2.1.result? = some (.ok (.updated 2)) := by decide +kernel
  rw [hcourse] at hresult
  obtain rfl : result = .ok (.updated 2) := Option.some.inj hresult
  exact ⟨hdelay, as, s', ((hends.updated 2).1 rfl).1, hcourse⟩

end DriverRegistration.EditTask
