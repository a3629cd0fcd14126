import DriverRegistration.Registrar

/-!
# The program

Reads the command line and the environment and runs a registrar.  The program carries no calls to a
driver, so no driver answers, and a run ends when the time to wait for one is up.
-/

open DriverRegistration

/-- Surroundings in which there is nobody. -/
def nobody : Registrar.Surroundings where
  files := ⟨.ofDirectories [[]], 0o022⟩
  name := ⟨.error ⟨.unavailable, ""⟩, none⟩
  nodeId := ⟨.error ⟨.unavailable, ""⟩, none⟩
  environment := fun _ => none
  now := 0
  watcher := []
  stopped := false

/-- A record as a line of the log. -/
def logLine (c : CommandLine) (r : LogRecord) : String :=
  match c.logFormat with
  | .text => r.text
  | .json => r.value.write

/-- The longest sleep at a time, in milliseconds. -/
def longestSleep : Nat := 1000000

/-- The program. -/
def main (args : List String) : IO UInt32 := do
  let env : CommandLine.Environment := ⟨← IO.getEnv "KUBECONFIG", ← IO.getEnv "KUBE_NODE_NAME"⟩
  match CommandLine.parse args env with
  | .error refusal =>
    if refusal.exitStatus = 0 then IO.println refusal.message else IO.eprintln refusal.message
    return refusal.exitStatus.toUInt32
  | .ok c =>
    let run := Registrar.run c (← IO.getEnv "RUST_LOG") nobody
    if c.config.fault? = none then
      IO.sleep (min longestSleep (Registrar.reach c.config nobody).elapsed.ceilMillis).toUInt32
    for record in run.records do
      IO.println (logLine c record)
    match run.ending with
    | .exited status => return status.toUInt32
    | .openEnded => return 1
