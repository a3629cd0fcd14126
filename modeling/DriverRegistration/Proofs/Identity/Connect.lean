import DriverRegistration.Identity.Connect
import Mathlib.Algebra.Order.BigOperators.Group.Finset
import Mathlib.Algebra.Order.Floor.Div

/-!
# Waiting for the socket ends on time

Attempts may end as they like and take as long as they like.  When each of them starts follows from
those before it, `start`.  What the loop does from any attempt on is told by `Course`: which
attempts failed and were followed by another one, and what became of the last one.

Since every further attempt starts at least a second after the one before, and still in time, there
are at most as many attempts as seconds have begun when the time is up (`run_on_time`).
-/

namespace DriverRegistration

/-- The least number of seconds that is not shorter. -/
def Duration.ceilSeconds (d : Duration) : Nat := d.nanos ⌈/⌉ (Duration.ofSeconds 1).nanos

namespace Connect

theorem ceilSeconds_le_iff {d : Duration} {n : Nat} :
    d.ceilSeconds ≤ n ↔ d.nanos ≤ n * pause.nanos := by
  rw [Nat.mul_comm]
  exact ceilDiv_le_iff_le_mul pause_pos

theorem lt_ceilSeconds_iff {d : Duration} {n : Nat} :
    n < d.ceilSeconds ↔ n * pause.nanos < d.nanos := by
  rw [← not_le, ceilSeconds_le_iff, not_le]

/-! ## When attempts start -/

/-- When the `i`-th attempt starts, if all those before it fail: each of them takes its time, and a
pause follows it. -/
def start (attempt : Nat → Attempt) (i : Nat) : Nat :=
  ∑ j ∈ Finset.range i, ((attempt j).duration.nanos + pause.nanos)

variable {address : String} {timeout : Duration} {attempt : Nat → Attempt} {i : Nat}

theorem start_zero : start attempt 0 = 0 := rfl

theorem start_succ (attempt : Nat → Attempt) (i : Nat) :
    start attempt (i + 1) = (attempt i).finish (start attempt i) + pause.nanos := by
  rw [start, Finset.sum_range_succ, Attempt.finish, Nat.add_assoc]
  rfl

theorem mul_pause_le_start (attempt : Nat → Attempt) (i : Nat) :
    i * pause.nanos ≤ start attempt i := by
  calc i * pause.nanos = ∑ _j ∈ Finset.range i, pause.nanos := by
        rw [Finset.sum_const, Finset.card_range, smul_eq_mul]
    _ ≤ start attempt i := Finset.sum_le_sum fun _ _ => Nat.le_add_left ..

/-- Attempts that fail at once start after so many pauses. -/
theorem start_of_refused (hfail : ∀ i, ∃ reason, attempt i = ⟨.error reason, .zero⟩) (i : Nat) :
    start attempt i = i * pause.nanos := by
  have hzero : ∀ i, (attempt i).duration.nanos = 0 := fun i => by
    obtain ⟨reason, hi⟩ := hfail i
    rw [hi]
    rfl
  simp only [start, hzero, Nat.zero_add, Finset.sum_const, Finset.card_range, smul_eq_mul]

/-! ## The course of the attempts -/

/-- What the last attempt leads to: it succeeds, or it fails too late for another one. -/
inductive Ends (address : String) (timeout : Duration) (attempt : Nat → Attempt) (i : Nat) :
    Except IdentityError Unit → Prop where
  | reached : (attempt i).outcome = .ok () → Ends address timeout attempt i (.ok ())
  | gaveUp {reason : String} : (attempt i).outcome = .error reason →
    timeout.nanos ≤ start attempt (i + 1) →
    Ends address timeout attempt i (.error (.connect address timeout reason))

theorem Ends.of_error {result : Except IdentityError Unit} {reason : String}
    (h : Ends address timeout attempt i result) (hfail : (attempt i).outcome = .error reason) :
    result = .error (.connect address timeout reason) ∧
      timeout.nanos ≤ start attempt (i + 1) := by
  cases h with
  | reached hok => exact absurd (hok.symm.trans hfail) nofun
  | gaveUp hlast hlate =>
    obtain rfl := Except.error.inj (hlast.symm.trans hfail)
    exact ⟨rfl, hlate⟩

/-- What a report says of the attempts from the `i`-th one on: some failed, for these reasons, in
time for another attempt, and one more was the last. -/
structure Course (address : String) (timeout : Duration) (attempt : Nat → Attempt) (i : Nat)
    (reasons : List String) (r : Report) : Prop where
  attempts : r.attempts = reasons.length + 1
  events : r.events = reasons.map .unreachable
  retried : ∀ j (h : j < reasons.length), (attempt (i + j)).outcome = .error reasons[j] ∧
    start attempt (i + j + 1) < timeout.nanos
  elapsed : r.elapsed =
    ⟨(attempt (i + reasons.length)).finish (start attempt (i + reasons.length))⟩
  result : Ends address timeout attempt (i + reasons.length) r.result

variable {reason : String} {reasons : List String} {r : Report}

theorem Course.afterFailure (h : Course address timeout attempt (i + 1) reasons r)
    (hfail : (attempt i).outcome = .error reason) (htime : start attempt (i + 1) < timeout.nanos) :
    Course address timeout attempt i (reason :: reasons) (r.afterFailure reason) := by
  have hlast : i + (reason :: reasons).length = i + 1 + reasons.length := by
    rw [List.length_cons]
    omega
  refine ⟨?attempts, ?events, ?retried, ?elapsed, ?result⟩
  case attempts => exact congrArg (· + 1) h.attempts
  case events => exact congrArg (Event.unreachable reason :: ·) h.events
  case retried =>
    rintro (_ | j) hj
    · exact ⟨hfail, htime⟩
    · have := h.retried j (Nat.lt_of_succ_lt_succ hj)
      rwa [Nat.add_right_comm i 1 j] at this
  case elapsed => rw [hlast]; exact h.elapsed
  case result => rw [hlast]; exact h.result

/-- The attempts from one on that is the last. -/
theorem Course.last {result : Except IdentityError Unit}
    (h : Ends address timeout attempt i result) :
    Course address timeout attempt i []
      ⟨result, [], 1, ⟨(attempt i).finish (start attempt i)⟩⟩ where
  attempts := rfl
  events := rfl
  retried _ h := absurd h (Nat.not_lt_zero _)
  elapsed := rfl
  result := h

/-- The loop has a course; the induction is on its recursion, every step of which starts the next
attempt when `start` says. -/
theorem exists_course (address : String) (timeout : Duration) (attempt : Nat → Attempt) (i : Nat) :
    ∃ reasons, Course address timeout attempt i reasons
      (attemptsFrom address timeout attempt i (start attempt i)) := by
  generalize hnow : start attempt i = now
  fun_induction attemptsFrom address timeout attempt i now with
  | case1 i now hok =>
    subst hnow
    exact ⟨[], .last (.reached hok)⟩
  | case2 i now reason hfail htime ih =>
    subst hnow
    rw [← start_succ] at htime ih
    obtain ⟨reasons, h⟩ := ih rfl
    exact ⟨reason :: reasons, start_succ attempt i ▸ h.afterFailure hfail htime⟩
  | case3 i now reason hfail htime =>
    subst hnow
    rw [← start_succ, Nat.not_lt] at htime
    exact ⟨[], .last (.gaveUp hfail htime)⟩

/-! ## The whole loop -/

/-- The last attempt is the first, or it started in time. -/
theorem Course.last_in_time (h : Course address timeout attempt 0 reasons r) :
    reasons = [] ∨ start attempt reasons.length < timeout.nanos := by
  obtain rfl | ⟨before, reason, rfl⟩ := reasons.eq_nil_or_concat'
  · exact .inl rfl
  · have := (h.retried before.length (by simp)).2
    rw [Nat.zero_add] at this
    exact .inr (by rwa [List.length_append, List.length_singleton])

/-- There are at most as many attempts as seconds have begun when the time is up. -/
theorem Course.attempts_le (h : Course address timeout attempt 0 reasons r) :
    r.attempts ≤ max 1 timeout.ceilSeconds := by
  rw [h.attempts]
  obtain rfl | hlast := h.last_in_time
  · exact le_max_left ..
  · exact le_max_of_le_right
      (lt_ceilSeconds_iff.2 ((mul_pause_le_start attempt reasons.length).trans_lt hlast))

/-- If all attempts fail at once, there is one for each second that has begun when the time is
up. -/
theorem Course.length_of_refused (h : Course address timeout attempt 0 reasons r)
    (hfail : ∀ i, ∃ reason, attempt i = ⟨.error reason, .zero⟩) :
    reasons.length = timeout.ceilSeconds - 1 := by
  have hle : timeout.ceilSeconds ≤ reasons.length + 1 := by
    obtain ⟨reason, hi⟩ := hfail (0 + reasons.length)
    have hlate := (h.result.of_error (congrArg Attempt.outcome hi)).2
    rw [start_of_refused hfail, Nat.zero_add] at hlate
    exact ceilSeconds_le_iff.2 hlate
  obtain rfl | hlast := h.last_in_time
  · exact (Nat.sub_eq_zero_of_le hle).symm
  · rw [start_of_refused hfail, ← lt_ceilSeconds_iff] at hlast
    omega

theorem Course.elapsed_of_refused (h : Course address timeout attempt 0 reasons r)
    (hfail : ∀ i, ∃ reason, attempt i = ⟨.error reason, .zero⟩) :
    r.elapsed = .ofSeconds reasons.length := by
  obtain ⟨reason, hi⟩ := hfail reasons.length
  rw [h.elapsed, Nat.zero_add, start_of_refused hfail, Attempt.finish, hi]
  simp only [Duration.zero, Nat.add_zero, pause, Duration.ofSeconds, Nat.one_mul]

/-- The loop ends on time, however its attempts end and however long they take: all of them but the
last fail, each with one warning and a pause after it, and the next one starts before the time is
up.  The last one succeeds, or the loop gives up with its reason.  So there are at most as many
attempts as seconds have begun when the time is up, and as many if each of them fails at once. -/
theorem run_on_time (address : String) (timeout : Duration) (attempt : Nat → Attempt) :
    let report := run address timeout attempt
    report.attempts ≤ max 1 timeout.ceilSeconds ∧
    (∃ reasons : List String,
      report.attempts = reasons.length + 1 ∧
      report.events = reasons.map .unreachable ∧
      (∀ j (h : j < reasons.length), (attempt j).outcome = .error reasons[j] ∧
        start attempt (j + 1) < timeout.nanos) ∧
      report.elapsed = ⟨(attempt reasons.length).finish (start attempt reasons.length)⟩ ∧
      Ends address timeout attempt reasons.length report.result) ∧
    ((∀ i, ∃ reason, attempt i = ⟨.error reason, .zero⟩) →
      (∃ reason, report.result = .error (.connect address timeout reason)) ∧
      report.attempts = max 1 timeout.ceilSeconds ∧
      report.events.length + 1 = report.attempts ∧
      report.elapsed = .ofSeconds (timeout.ceilSeconds - 1)) := by
  intro report
  obtain ⟨reasons, h⟩ := exists_course address timeout attempt 0
  rw [start_zero] at h
  change Course address timeout attempt 0 reasons report at h
  refine ⟨h.attempts_le, ⟨reasons, h.attempts, h.events, ?retried, ?elapsed, ?ends⟩, ?refused⟩
  case retried => simpa only [Nat.zero_add] using h.retried
  case elapsed => simpa only [Nat.zero_add] using h.elapsed
  case ends => simpa only [Nat.zero_add] using h.result
  case refused =>
    intro hfail
    have hlength := h.length_of_refused hfail
    obtain ⟨reason, hi⟩ := hfail (0 + reasons.length)
    refine ⟨⟨reason, (h.result.of_error (congrArg Attempt.outcome hi)).1⟩, ?_, ?_,
      hlength ▸ h.elapsed_of_refused hfail⟩
    · rw [h.attempts, hlength]
      omega
    · rw [h.attempts, h.events, List.length_map]

/-- Two seconds and a half leave time for three attempts. -/
theorem run_on_time_of_refused :
    (run "unix:///csi.sock" (.ofMillis 2500) (refused noListener)).attempts = 3 ∧
      (run "unix:///csi.sock" (.ofMillis 2500) (refused noListener)).elapsed = .ofSeconds 2 := by
  have h := (run_on_time "unix:///csi.sock" (.ofMillis 2500) (refused noListener)).2.2
    fun _ => ⟨noListener, rfl⟩
  exact ⟨h.2.1, h.2.2.2⟩

end Connect

end DriverRegistration
