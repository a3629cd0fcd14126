import DriverRegistration.Config
import DriverRegistration.Text.Integer
import DriverRegistration.Text.Plain

/-!
# The command line

Every option takes one value and is given at most once.  A long option has its value in the next
argument or after an equals sign; `-v` also takes it attached.  An argument that begins with a
hyphen is an option, never a value.  The value of an option is judged when the next option is met or
the arguments end, so a value that is refused gives way to an unknown argument that follows at once.
The values not given come from the environment, then from the defaults.
-/

namespace DriverRegistration

namespace CommandLine

/-- The options. -/
inductive Flag where
  | kubeconfig
  | connectionTimeout
  | csiAddress
  | registrationPath
  | registrationDir
  | nodeName
  | syncInterval
  | retryAttempts
  | initialBackoff
  | maxBackoff
  | logFormat
  | verbosity
  deriving DecidableEq, Repr

namespace Flag

/-- All options. -/
def all : List Flag :=
  [kubeconfig, connectionTimeout, csiAddress, registrationPath, registrationDir, nodeName,
    syncInterval, retryAttempts, initialBackoff, maxBackoff, logFormat, verbosity]

/-- The long name; the verbosity has a short one only. -/
def longName? : Flag → Option String
  | kubeconfig => some "kubeconfig"
  | connectionTimeout => some "connection-timeout"
  | csiAddress => some "csi-address"
  | registrationPath => some "kubelet-registration-path"
  | registrationDir => some "registration-dir"
  | nodeName => some "node-name"
  | syncInterval => some "sync-interval"
  | retryAttempts => some "retry-attempts"
  | initialBackoff => some "retry-initial-backoff"
  | maxBackoff => some "retry-max-backoff"
  | logFormat => some "log-format"
  | verbosity => none

/-- How an option is named in messages, with a placeholder for its value. -/
def label : Flag → String
  | kubeconfig => "--kubeconfig <KUBECONFIG>"
  | connectionTimeout => "--connection-timeout <CONNECTION_TIMEOUT>"
  | csiAddress => "--csi-address <CSI_ADDRESS>"
  | registrationPath => "--kubelet-registration-path <KUBELET_REGISTRATION_PATH>"
  | registrationDir => "--registration-dir <REGISTRATION_DIR>"
  | nodeName => "--node-name <NODE_NAME>"
  | syncInterval => "--sync-interval <SYNC_INTERVAL>"
  | retryAttempts => "--retry-attempts <RETRY_ATTEMPTS>"
  | initialBackoff => "--retry-initial-backoff <RETRY_INITIAL_BACKOFF>"
  | maxBackoff => "--retry-max-backoff <RETRY_MAX_BACKOFF>"
  | logFormat => "--log-format <LOG_FORMAT>"
  | verbosity => "-v <V>"

/-- The option of a long name. -/
def ofLongName? (name : String) : Option Flag := all.find? (·.longName? = some name)

/-- The words that an option is limited to, if it is. -/
def choices : Flag → List String
  | logFormat => ["text", "json"]
  | _ => []

end Flag

/-! ## Refusals -/

/-- Why a command line is not run: it is misused, or it only asks for a text. -/
inductive Refusal where
  | unexpectedArgument (arg : String)
  | repeated (flag : Flag)
  | missingValue (flag : Flag)
  | notAChoice (flag : Flag) (value : String)
  | invalidValue (flag : Flag) (value reason : String)
  | unneededValue (value option : String)
  | missingNodeName
  | help
  | version
  deriving DecidableEq, Repr

/-- A list of choices on a line of its own, if there are any. -/
def choicesText (flag : Flag) : String :=
  if flag.choices = [] then ""
  else "\n  [possible values: " ++ ", ".intercalate flag.choices ++ "]"

/-- The text of a refusal, in which what was given is shown without control sequences. -/
def Refusal.message : Refusal → String
  | unexpectedArgument arg => "error: unexpected argument '" ++ Text.plain arg ++ "' found"
  | repeated flag => "error: the argument '" ++ flag.label ++ "' cannot be used multiple times"
  | missingValue flag =>
    "error: a value is required for '" ++ flag.label ++ "' but none was supplied" ++
      choicesText flag
  | notAChoice flag value =>
    "error: invalid value '" ++ Text.plain value ++ "' for '" ++ flag.label ++ "'" ++
      choicesText flag
  | invalidValue flag value reason =>
    "error: invalid value '" ++ Text.plain value ++ "' for '" ++ flag.label ++ "': " ++ reason
  | unneededValue value option =>
    "error: unexpected value '" ++ Text.plain value ++ "' for '" ++ option ++
      "' found; no more were expected"
  | missingNodeName =>
    "error: the following required arguments were not provided:\n  " ++ Flag.nodeName.label
  | help => "Registers a CSI driver with the kubelet or the node object"
  | version => "csi-registrar 0.1.0"

/-- The exit status: only what was asked for succeeds. -/
def Refusal.exitStatus : Refusal → Nat
  | help | version => 0
  | _ => 2

/-! ## Values -/

/-- Read a natural up to a limit; a refusal gives its reason. -/
def bounded (limit : Nat) (value : String) : Except String Nat :=
  match Text.signed value.toList with
  | .error fault => .error fault.message
  | .ok n =>
    if 0 ≤ n && n ≤ limit then .ok n.toNat
    else .error (toString n ++ " is not in 0..=" ++ toString limit)

/-- The largest number of attempts. -/
def attemptsLimit : Nat := 4294967295

/-- The largest verbosity. -/
def verbosityLimit : Nat := 255

/-- How log lines are written. -/
inductive LogFormat where
  | text
  | json
  deriving DecidableEq, Repr

/-- The log format of a word. -/
def LogFormat.ofName? (name : String) : Option LogFormat :=
  if name = "text" then some text else if name = "json" then some json else none

/-- Judge the value of an option. -/
def check (flag : Flag) (value : String) : Except Refusal Unit :=
  match flag with
  | .kubeconfig | .registrationDir =>
    if value = "" then .error (.missingValue flag) else .ok ()
  | .csiAddress | .registrationPath | .nodeName => .ok ()
  | .connectionTimeout | .syncInterval | .initialBackoff | .maxBackoff =>
    match Duration.parse value with
    | .ok _ => .ok ()
    | .error fault => .error (.invalidValue flag value fault.message)
  | .retryAttempts => number attemptsLimit
  | .verbosity => number verbosityLimit
  | .logFormat =>
    if (LogFormat.ofName? value).isSome then .ok ()
    else if value = "" then .error (.missingValue flag)
    else .error (.notAChoice flag value)
where
  number (limit : Nat) : Except Refusal Unit :=
    match bounded limit value with
    | .ok _ => .ok ()
    | .error reason => .error (.invalidValue flag value reason)

/-! ## Arguments -/

/-- The options given so far with their values. -/
abbrev Given := List (Flag × String)

/-- Add an option with its value. -/
def accept (given : Given) (flag : Flag) (value : String) : Except Refusal Given :=
  if (given.lookup flag).isSome then .error (.repeated flag)
  else do
    check flag value
    return (flag, value) :: given

/-- An option whose value is not judged yet, and the value if it was given. -/
abbrev Pending := Option (Flag × Option String)

/-- Judge the pending option. -/
def settle (given : Given) : Pending → Except Refusal Given
  | none => .ok given
  | some (flag, none) => .error (.missingValue flag)
  | some (flag, some value) => accept given flag value

/-- An argument by its shape. -/
inductive Shape where
  /-- Two hyphens alone: only positional arguments follow. -/
  | terminator
  | long (name : String) (attached : Option String)
  /-- A short option of a letter, with the characters after it. -/
  | short (letter : Char) (rest : List Char)
  | bare
  deriving DecidableEq, Repr

/-- The characters up to the first equals sign, and those after it if there is one. -/
def splitEquals (cs : List Char) : List Char × Option (List Char) :=
  match cs.dropWhile (· ≠ '=') with
  | [] => (cs, none)
  | _ :: r => (cs.takeWhile (· ≠ '='), some r)

/-- The shape of an argument. -/
def Shape.of (arg : String) : Shape :=
  match arg.toList with
  | ['-', '-'] => .terminator
  | '-' :: '-' :: cs =>
    .long (String.ofList (splitEquals cs).1) ((splitEquals cs).2.map String.ofList)
  | '-' :: c :: cs => .short c cs
  | _ => .bare

/-- The value attached to a short option; an equals sign before it is not part of it. -/
def attachedShort : List Char → Option String
  | [] => none
  | '=' :: cs => some (String.ofList cs)
  | cs => some (String.ofList cs)

/-- What an option with an attached value, or without one, does to the options given so far. -/
def take (given : Given) (pending : Pending) (flag : Flag) :
    Option String → Except Refusal (Given × Pending)
  | none => do return (← settle given pending, some (flag, none))
  | some value => do return (← accept (← settle given pending) flag value, none)

/-- A request for a text, which ends the command line. -/
def ask (given : Given) (pending : Pending) (refusal : Refusal) (option : String) :
    Option String → Except Refusal (Given × Pending)
  | none => do
    let _ ← settle given pending
    .error refusal
  | some value => .error (.unneededValue value option)

/-- Take one argument. -/
def argument (given : Given) (pending : Pending) (arg : String) :
    Except Refusal (Given × Pending) :=
  match Shape.of arg with
  | .long name attached =>
    if name = "help" then ask given pending .help "--help" attached
    else if name = "version" then ask given pending .version "--version" attached
    else
      match Flag.ofLongName? name with
      | some flag => take given pending flag attached
      | none => .error (.unexpectedArgument ("--" ++ name))
  | .short letter rest =>
    if letter = 'v' then take given pending .verbosity (attachedShort rest)
    else if letter = 'h' then ask given pending .help "-h" none
    else if letter = 'V' then ask given pending .version "-V" none
    else .error (.unexpectedArgument (String.ofList ['-', letter]))
  | .terminator | .bare =>
    match pending with
    | some (flag, none) => .ok (given, some (flag, some arg))
    | _ => .error (.unexpectedArgument arg)

/-- Take the arguments one after another. -/
def arguments (given : Given) (pending : Pending) : List String → Except Refusal Given
  | [] => settle given pending
  | arg :: args =>
    if Shape.of arg = .terminator then
      match args with
      | [] => settle given pending
      | extra :: _ => .error (.unexpectedArgument extra)
    else do
      let (given, pending) ← argument given pending arg
      arguments given pending args

/-! ## The command -/

/-- The variables of the environment that stand in for options. -/
structure Environment where
  kubeconfig : Option String
  nodeName : Option String
  deriving DecidableEq, Repr

/-- Take an option from the environment, where it was not given. -/
def fromEnvironment (given : Given) (flag : Flag) : Option String → Except Refusal Given
  | none => .ok given
  | some value =>
    if (given.lookup flag).isSome then .ok given
    else do
      check flag value
      return (flag, value) :: given

end CommandLine

open CommandLine in
/-- What a command line says. -/
structure CommandLine where
  kubeconfig : Option String
  connectionTimeout : Duration
  csiAddress : String
  registrationPath : String
  registrationDir : String
  nodeName : String
  syncInterval : Duration
  retryAttempts : Nat
  initialBackoff : Duration
  maxBackoff : Duration
  logFormat : LogFormat
  verbosity : Nat
  deriving DecidableEq, Repr

namespace CommandLine

/-- A duration that was given, or a default. -/
def duration (given : Given) (flag : Flag) (default : Duration) : Duration :=
  match (given.lookup flag).map Duration.parse with
  | some (.ok d) => d
  | _ => default

/-- A number that was given, or a default. -/
def natural (given : Given) (flag : Flag) (limit default : Nat) : Nat :=
  match (given.lookup flag).map (bounded limit) with
  | some (.ok n) => n
  | _ => default

/-- The command line of the options given, with the defaults of the others. -/
def ofGiven (given : Given) (nodeName : String) : CommandLine where
  kubeconfig := given.lookup .kubeconfig
  connectionTimeout := duration given .connectionTimeout (.ofSeconds 60)
  csiAddress := (given.lookup .csiAddress).getD "/run/csi/socket"
  registrationPath :=
    (given.lookup .registrationPath).getD "/var/lib/kubelet/plugins/csi-hostpath/csi.sock"
  registrationDir := (given.lookup .registrationDir).getD "/registration"
  nodeName := nodeName
  syncInterval := duration given .syncInterval (.ofSeconds 120)
  retryAttempts := natural given .retryAttempts attemptsLimit 5
  initialBackoff := duration given .initialBackoff (.ofMillis 10)
  maxBackoff := duration given .maxBackoff (.ofSeconds 1)
  logFormat := ((given.lookup .logFormat).bind LogFormat.ofName?).getD .text
  verbosity := natural given .verbosity verbosityLimit 0

/-- Read a command line; the name of the node must be given or set. -/
def parse (args : List String) (env : Environment) : Except Refusal CommandLine := do
  let given ← arguments [] none args
  let given ← fromEnvironment given .kubeconfig env.kubeconfig
  let given ← fromEnvironment given .nodeName env.nodeName
  match given.lookup .nodeName with
  | some nodeName => .ok (ofGiven given nodeName)
  | none => .error .missingNodeName

/-- The configuration of a command line. -/
def config (c : CommandLine) : Config :=
  { Config.ofMode c.nodeName c.csiAddress
      (Mode.select (some c.registrationPath) c.registrationDir c.kubeconfig c.syncInterval) with
    connectionTimeout := c.connectionTimeout
    retry :=
      { RetryPolicy.standard with
        attempts := c.retryAttempts
        initialBackoff := c.initialBackoff
        maxBackoff := c.maxBackoff } }

/-- The log filter of the verbosity. -/
def logFilter (c : CommandLine) : String :=
  match c.verbosity with
  | 0 => "info"
  | 1 => "csi_registrar=debug,libregistrar=debug,info"
  | 2 => "csi_registrar=trace,libregistrar=trace,info"
  | _ => "trace"

end CommandLine

end DriverRegistration
