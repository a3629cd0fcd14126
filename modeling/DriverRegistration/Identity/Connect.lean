import DriverRegistration.Event
import DriverRegistration.Identity.Error

/-!
# Waiting for the socket of a driver

A registrar may start before its driver.  It tries to reach the driver again and again, with a pause
of a second after every failure, until a further attempt would not start before the time is up.
-/

namespace DriverRegistration.Connect

/-- The pause between two attempts. -/
def pause : Duration := .ofSeconds 1

theorem pause_pos : 0 < pause.nanos := Nat.mul_pos Nat.one_pos (Nat.pos_of_ne_zero nofun)

/-- Every pause leaves less time. -/
theorem remaining_lt {total now failed pause : Nat} (hpause : 0 < pause) (hnow : now ≤ failed)
    (h : failed + pause < total) : total - (failed + pause) < total - now := by omega

/-- One attempt: how it ended, and how long it took. -/
structure Attempt where
  outcome : Except String Unit
  duration : Duration := .zero

/-- What became of the attempts. -/
structure Report where
  result : Except IdentityError Unit
  events : List Event
  /-- How many attempts were made. -/
  attempts : Nat
  /-- The time from the start to the end. -/
  elapsed : Duration

/-- A report with one more attempt before it, which failed. -/
def Report.afterFailure (reason : String) (r : Report) : Report :=
  ⟨r.result, .unreachable reason :: r.events, r.attempts + 1, r.elapsed⟩

/-- When an attempt ends that starts at `now`. -/
def Attempt.finish (a : Attempt) (now : Nat) : Nat := now + a.duration.nanos

/-- Make attempts from the `i`-th one on, which starts at `now`; times count from the start of the
first one.  Every further attempt starts before the time is up, and at least a second later than the
one before, so there is a last one. -/
def attemptsFrom (address : String) (timeout : Duration) (attempt : Nat → Attempt) (i now : Nat) :
    Report :=
  match (attempt i).outcome with
  | .ok () => ⟨.ok (), [], 1, ⟨(attempt i).finish now⟩⟩
  | .error reason =>
    if _ : (attempt i).finish now + pause.nanos < timeout.nanos then
      (attemptsFrom address timeout attempt (i + 1)
        ((attempt i).finish now + pause.nanos)).afterFailure reason
    else ⟨.error (.connect address timeout reason), [], 1, ⟨(attempt i).finish now⟩⟩
termination_by timeout.nanos - now
decreasing_by exact remaining_lt pause_pos (Nat.le_add_right ..) ‹_›

/-- Reach the driver at an address. -/
def run (address : String) (timeout : Duration) (attempt : Nat → Attempt) : Report :=
  attemptsFrom address timeout attempt 0 0

/-- Attempts that fail at once, for the same reason. -/
def refused (reason : String) : Nat → Attempt := fun _ => ⟨.error reason, .zero⟩

/-- The reason that is given where the address leads to no listener. -/
def noListener : String := "transport error"

/-- Whether the clock can hold the end of a time limit that starts now; it counts the seconds in 63
bits. -/
def fitsClock (timeout : Duration) : Bool := timeout.nanos < 9223372036854775807 * 1000000000

end DriverRegistration.Connect
