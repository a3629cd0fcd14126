import DriverRegistration.Identity.Error

/-!
# The identity of a driver

The driver is asked for its name and then for its node id.  Either question has the same time limit,
which starts with the question.  The second one is asked only after a name that is not empty.
-/

namespace DriverRegistration

/-- What a driver says about itself. -/
structure DriverIdentity where
  name : String
  nodeId : String
  deriving DecidableEq, Repr

namespace DriverIdentity

/-- The name at the node id. -/
def text (i : DriverIdentity) : String := i.name ++ "@" ++ i.nodeId

/-- How a driver answers a question: with a text or an error, after a number of milliseconds, or
never. -/
structure Answer where
  reply : Except RpcStatus String
  delay : Option Nat := some 0

/-- Ask one question.  An answer that is due just when the time is up still counts.  Gives the
result and the milliseconds it took. -/
def ask (call : IdentityCall) (limit : Duration) (a : Answer) :
    Except IdentityError String × Nat :=
  match a.delay.filter (· ≤ limit.ceilMillis) with
  | none => (.error (.timeout call limit), limit.ceilMillis)
  | some delay =>
    (match a.reply with
      | .error status => .error (.rpc call status)
      | .ok text => if text = "" then .error (.empty call) else .ok text,
      delay)

/-- A driver that can be asked: how it answers a question that is put to it so many milliseconds
after the first one, and how the question leaves it. -/
structure Source (σ : Type) where
  answer : IdentityCall → Nat → σ → Answer × σ

/-- Ask a driver for its name and then for its node id.  Gives the result, the milliseconds it took
and the driver after it. -/
def fetchFrom {σ : Type} (source : Source σ) (limit : Duration) (s : σ) :
    Except IdentityError DriverIdentity × Nat × σ :=
  let (name, s) := source.answer .pluginInfo 0 s
  match ask .pluginInfo limit name with
  | (.error e, elapsed) => (.error e, elapsed, s)
  | (.ok name, elapsed) =>
    let (nodeId, s) := source.answer .nodeId elapsed s
    match ask .nodeId limit nodeId with
    | (.error e, more) => (.error e, elapsed + more, s)
    | (.ok nodeId, more) => (.ok ⟨name, nodeId⟩, elapsed + more, s)

/-- A driver that has one answer to each question. -/
def Source.fixed (name nodeId : Answer) : Source Unit where
  answer
    | .pluginInfo, _, s => (name, s)
    | .nodeId, _, s => (nodeId, s)

/-- Ask for the name and then for the node id, where the answers are given.  Gives the result and
the milliseconds it took. -/
def fetch (limit : Duration) (name nodeId : Answer) :
    Except IdentityError DriverIdentity × Nat :=
  let (result, elapsed, _) := fetchFrom (.fixed name nodeId) limit ()
  (result, elapsed)

/-- The time limit of a question at the start of a registrar. -/
def callLimit : Duration := .ofSeconds 1

end DriverIdentity

end DriverRegistration
