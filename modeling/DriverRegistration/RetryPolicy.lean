import DriverRegistration.Binary64
import DriverRegistration.Duration

/-!
# Retry budget and backoff

An update that loses to another writer is tried again, up to a budget of attempts and after a pause
that grows with every attempt.  The pause is computed in binary64: the first pause times a power of
the growth factor, capped by the longest pause, rounded to whole nanoseconds.  On top of it comes a
random part, up to a fraction of the pause.
-/

namespace DriverRegistration

/-- How conflicting updates are retried. -/
structure RetryPolicy where
  /-- All attempts, the first one included; zero counts as one. -/
  attempts : Nat
  /-- The pause after the first attempt. -/
  initialBackoff : Duration
  /-- What the pause is multiplied by after every attempt. -/
  factor : Binary64
  /-- The longest pause, before the random part. -/
  maxBackoff : Duration
  /-- The greatest random part, as a fraction of the pause. -/
  jitter : Binary64
  deriving DecidableEq, Repr

namespace RetryPolicy

/-- Five attempts, pauses from 10 ms doubling up to 1 s, and a tenth of random extra. -/
def standard : RetryPolicy where
  attempts := 5
  initialBackoff := .ofMillis 10
  factor := 2
  maxBackoff := .ofSeconds 1
  jitter := Binary64.ofRatio false 1 10

instance : Inhabited RetryPolicy := ⟨standard⟩

/-- How many attempts are made at most. -/
def budget (p : RetryPolicy) : Nat := Nat.max p.attempts 1

/-- Powers are taken up to this exponent. -/
def exponentLimit : Nat := 2147483647

/-- The pause in nanoseconds, before it is rounded. -/
def scaled (p : RetryPolicy) (attempt : Nat) : Binary64 :=
  Binary64.min
    (Binary64.ofNat p.initialBackoff.nanos *
      (Binary64.max p.factor 1).pow (Nat.min (attempt - 1) exponentLimit))
    (Binary64.ofNat p.maxBackoff.nanos)

/-- The pause after an attempt, counted from one, without its random part. -/
def baseDelay (p : RetryPolicy) (attempt : Nat) : Duration :=
  match (p.scaled attempt).roundToNat? with
  | some n => ⟨Nat.min n 18446744073709551615⟩
  | none => .zero

/-- The fraction of the pause that the random part may reach. -/
def jitterFraction (p : RetryPolicy) : Binary64 := p.jitter.clamp 0 1

/-- The pause after an attempt. -/
inductive Delay where
  /-- There is no random part. -/
  | exact (pause : Duration)
  /-- A random part comes on top. -/
  | atLeast (pause : Duration)
  /-- The range of the random part is not a number, so there is no pause to take. -/
  | undefined
  deriving DecidableEq, Repr

/-- The pause after an attempt, counted from one. -/
def delay (p : RetryPolicy) (attempt : Nat) : Delay :=
  if p.jitterFraction.isZero || (p.baseDelay attempt).nanos = 0 then .exact (p.baseDelay attempt)
  else if p.jitterFraction.isNaN then .undefined
  else .atLeast (p.baseDelay attempt)

/-- The pause after an attempt, where pauses of the policy have no random part. -/
def fixedDelay? (p : RetryPolicy) (attempt : Nat) : Option Duration :=
  if p.jitterFraction.isZero then some (p.baseDelay attempt) else none

/-- The part of a pause that is not random. -/
def Delay.pause : Delay → Duration
  | exact d => d
  | atLeast d => d
  | undefined => .zero

end RetryPolicy

end DriverRegistration
