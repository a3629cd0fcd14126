import DriverRegistration.Proofs.CommandLine.Assignment

/-!
# The configuration of an assignment

What an assignment describes is said option by option (`Assignment.config`): the value that is
given, else that of the environment for the two options that have one there, else the default.  The
text that is looked up for an option agrees with its value (`Agrees`), so the values are read back
one kind at a time, and the order of the arguments no longer matters.
-/

namespace DriverRegistration.CommandLine

/-! ## Reading single values -/

/-- What is looked up for an option agrees with its value: a text that spells it, or nothing. -/
inductive Agrees {k : Kind} : Option k.Value → Option String → Prop
  | absent : Agrees none none
  | given {value : k.Value} {text : String} (htext : k.Spells value text) :
    Agrees (some value) (some text)

section Values

variable {a : Assignment} {given : Given} {flag : Flag} {flags : List Flag}

theorem Records.agrees (h : Records a (fun flag => flag ∈ flags) given)
    (hall : ∀ flag, (a flag).isSome → flag ∈ flags) (flag : Flag) :
    Agrees (a flag) (given.lookup flag) := by
  obtain ⟨-, value, text, hvalue, htext, hlookup⟩ | ⟨hnot, hlookup⟩ := h flag
  · rw [hvalue, hlookup]
    exact .given htext
  · rw [Option.not_isSome_iff_eq_none.1 (mt (hall flag) hnot), hlookup]
    exact .absent

theorem eq_of_agrees_text {value? : Option Kind.text.Value} {text? : Option String}
    (h : Agrees value? text?) : text? = value? := by
  cases h with
  | absent => rfl
  | given htext => exact congrArg some htext

theorem eq_of_agrees_path {value? : Option Kind.path.Value} {text? : Option String}
    (h : Agrees value? text?) : text? = value?.map (·.1) := by
  cases h with
  | absent => rfl
  | given htext => exact congrArg some htext

theorem duration_of_agrees {d? : Option Kind.duration.Value}
    (h : Agrees d? (given.lookup flag)) (default : Duration) :
    duration given flag default = d?.getD default := by
  unfold duration
  generalize given.lookup flag = text? at h
  cases h with
  | absent => rfl
  | @given d text htext =>
    replace htext : Duration.parse text = .ok d := htext
    simp only [Option.map_some, htext]
    rfl

theorem natural_of_agrees {limit : Nat} {n? : Option (Kind.count limit).Value}
    (hlimit : limit ≤ 9223372036854775807) (h : Agrees n? (given.lookup flag)) (default : Nat) :
    natural given flag limit default = (n?.map (·.1)).getD default := by
  unfold natural
  generalize given.lookup flag = text? at h
  cases h with
  | absent => rfl
  | @given n text htext =>
    simp only [Option.map_some, bounded_of_decimal htext n.2 hlimit, Option.getD_some]

theorem format_of_agrees {format? : Option Kind.format.Value} {text? : Option String}
    (h : Agrees format? text?) : text?.bind LogFormat.ofName? = format? := by
  cases h with
  | absent => rfl
  | @given format text htext =>
    cases format with
    | text =>
      obtain rfl : text = "text" := htext
      rfl
    | json =>
      obtain rfl : text = "json" := htext
      rfl

/-! ## The environment -/

/-- The environment stands in for an option that is not given, and for no other one. -/
theorem fromEnvironment_eq_ok (given : Given) {value? : Option String}
    (h : ∀ value, value? = some value → check flag value = .ok ()) :
    ∃ given', fromEnvironment given flag value? = .ok given' ∧
      given'.lookup flag = (given.lookup flag).or value? ∧
      ∀ other, other ≠ flag → given'.lookup other = given.lookup other := by
  cases value? with
  | none => exact ⟨given, rfl, (Option.or_none).symm, fun _ _ => rfl⟩
  | some value =>
    cases hlookup : given.lookup flag with
    | some text =>
      refine ⟨given, ?_, hlookup, fun _ _ => rfl⟩
      simp only [fromEnvironment, hlookup, Option.isSome_some, if_true]
    | none =>
      refine ⟨(flag, value) :: given, ?_, by simp, fun other hother => ?_⟩
      · simp only [fromEnvironment, hlookup, Option.isSome_none, Bool.false_eq_true, if_false,
          h value rfl]
        rfl
      · rw [List.lookup_cons, beq_eq_false_iff_ne.2 hother]

end Values

/-! ## What an assignment describes -/

namespace Assignment

variable (a : Assignment) (env : Environment)

/-- The path of the cluster's configuration: that given, else that of the environment. -/
def kubeconfig : Option String := (a .kubeconfig).map (·.1) |>.or env.kubeconfig

/-- The name of the node: that given, else that of the environment. -/
def nodeName : Option String := (a .nodeName).or env.nodeName

/-- The endpoint of the handshake. -/
def endpoint : String :=
  (a .registrationPath : Option String).getD "/var/lib/kubelet/plugins/csi-hostpath/csi.sock"

/-- The configuration that an assignment describes, on a node of a name. -/
def config (name : String) : Config where
  nodeName := name
  csiAddress := (a .csiAddress : Option String).getD "/run/csi/socket"
  connectionTimeout := (a .connectionTimeout : Option Duration).getD (.ofSeconds 60)
  retry :=
    { attempts := ((a .retryAttempts).map (·.1)).getD 5
      initialBackoff := (a .initialBackoff : Option Duration).getD (.ofMillis 10)
      factor := RetryPolicy.standard.factor
      maxBackoff := (a .maxBackoff : Option Duration).getD (.ofSeconds 1)
      jitter := RetryPolicy.standard.jitter }
  versions := supportedVersions
  mode :=
    if a.endpoint = "" then
      .reconcile (a.kubeconfig env) ((a .syncInterval : Option Duration).getD (.ofSeconds 120))
    else .handshake a.endpoint (((a .registrationDir).map (·.1)).getD "/registration")

end Assignment

section Reading

variable {a : Assignment} {env : Environment} {given : Given}

/-- The configuration only depends on the texts that are looked up. -/
theorem config_ofGiven (hpath : given.lookup .kubeconfig = a.kubeconfig env)
    (h : ∀ flag, flag ≠ .kubeconfig → flag ≠ .nodeName → Agrees (a flag) (given.lookup flag))
    (name : String) : (ofGiven given name).config = a.config env name := by
  have hendpoint := eq_of_agrees_text (h .registrationPath nofun nofun)
  have haddress := eq_of_agrees_text (h .csiAddress nofun nofun)
  have hdirectory := eq_of_agrees_path (h .registrationDir nofun nofun)
  have htimeout := duration_of_agrees (h .connectionTimeout nofun nofun) (.ofSeconds 60)
  have hinterval := duration_of_agrees (h .syncInterval nofun nofun) (.ofSeconds 120)
  have hinitial := duration_of_agrees (h .initialBackoff nofun nofun) (.ofMillis 10)
  have hmax := duration_of_agrees (h .maxBackoff nofun nofun) (.ofSeconds 1)
  have hattempts := natural_of_agrees (by decide) (h .retryAttempts nofun nofun) 5
  unfold CommandLine.config ofGiven
  simp only [hendpoint, haddress, hdirectory, htimeout, hinterval, hinitial, hmax, hattempts, hpath]
  rfl

/-- In the end there are the options that the arguments give, and those of the environment where the
arguments give none. -/
theorem exists_given {flags : List Flag} {args : List String} (hargs : Writes a flags args)
    (hall : ∀ flag, (a flag).isSome → flag ∈ flags) (hpath : env.kubeconfig ≠ some "") :
    ∃ given,
      parse args env =
        (match given.lookup .nodeName with
        | some nodeName => .ok (ofGiven given nodeName)
        | none => .error .missingNodeName) ∧
      given.lookup .kubeconfig = a.kubeconfig env ∧ given.lookup .nodeName = a.nodeName env ∧
      ∀ flag, flag ≠ .kubeconfig → flag ≠ .nodeName → Agrees (a flag) (given.lookup flag) := by
  have hstart : settle [] none = .ok [] := rfl
  obtain ⟨given, hgiven, hrecords⟩ :=
    arguments_of_writes hargs hstart (records_nil a) fun _ _ => not_false
  have hagrees : ∀ flag, Agrees (a flag) (given.lookup flag) :=
    Records.agrees (by simpa only [false_or] using hrecords) hall
  have hcheck : ∀ value, env.kubeconfig = some value → check .kubeconfig value = .ok () := by
    intro value hvalue
    refine if_neg ?_
    rintro rfl
    exact hpath hvalue
  have hany : ∀ value, env.nodeName = some value → check .nodeName value = .ok () :=
    fun _ _ => rfl
  obtain ⟨given', hgiven', hlookup, hothers⟩ := fromEnvironment_eq_ok given hcheck
  obtain ⟨final, hfinal, hlookup', hothers'⟩ := fromEnvironment_eq_ok given' hany
  refine ⟨final, ?_, ?_, ?_, ?_⟩
  · simp only [parse, hgiven, hgiven', hfinal, Bind.bind, Except.bind]
    rfl
  · rw [hothers' .kubeconfig nofun, hlookup, eq_of_agrees_path (hagrees .kubeconfig)]
    rfl
  · rw [hlookup', hothers .nodeName nofun, eq_of_agrees_text (hagrees .nodeName)]
    rfl
  · intro flag hkubeconfig hnodeName
    rw [hothers' flag hnodeName, hothers flag hkubeconfig]
    exact hagrees flag

/-- Arguments that write an assignment, in any order, are accepted if the node has a name, given or
in the environment, and lead to the configuration that the assignment describes. -/
theorem parse_of_writes {flags : List Flag} {args : List String} {name : String}
    (hargs : Writes a flags args) (hall : ∀ flag, (a flag).isSome → flag ∈ flags)
    (hpath : env.kubeconfig ≠ some "") (hname : a.nodeName env = some name) :
    ∃ c, parse args env = .ok c ∧ c.config = a.config env name ∧
      c.logFormat = (a .logFormat : Option LogFormat).getD .text ∧
      c.verbosity = ((a .verbosity).map (·.1)).getD 0 := by
  obtain ⟨given, hparse, hkubeconfig, hnodeName, hrest⟩ := exists_given hargs hall hpath
  rw [hnodeName, hname] at hparse
  have hformat := format_of_agrees (hrest .logFormat nofun nofun)
  have hverbosity := natural_of_agrees (by decide) (hrest .verbosity nofun nofun) 0
  exact ⟨ofGiven given name, hparse, config_ofGiven hkubeconfig hrest name,
    congrArg (·.getD .text) hformat, hverbosity⟩

/-- Some options, of which the registration path is empty. -/
def Assignment.reconciling : Assignment
  | .verbosity => some ⟨2, by decide⟩
  | .nodeName => some "n=1"
  | .syncInterval => some (.ofSeconds 30)
  | .registrationPath => some ""
  | .retryAttempts => some ⟨7, by decide⟩
  | .logFormat => some .json
  | _ => none

theorem writes_reconciling : Writes .reconciling
    [.verbosity, .nodeName, .syncInterval, .registrationPath, .retryAttempts, .logFormat]
    ["-v", "2", "--node-name=n=1", "--sync-interval", " 30s", "--kubelet-registration-path", "",
      "--retry-attempts", "007", "--log-format=json"] := by
  have hverbosity : Text.Decimal 2 "2".toList := by decide
  have hattempts : Text.Decimal 7 "007".toList := by decide
  have hname := @Written.attached .nodeName "node-name" "n=1" rfl (by decide)
  have hformat := @Written.attached .logFormat "log-format" "json" rfl (by decide)
  refine .cons .verbosity ⟨2, by decide⟩ "2" (by decide) rfl hverbosity .short ?_
  refine .cons .nodeName "n=1" "n=1" (by decide) rfl rfl hname ?_
  refine .cons .syncInterval (.ofSeconds 30) " 30s" (by decide) rfl rfl (.apart rfl (by decide)) ?_
  refine .cons .registrationPath "" "" (by decide) rfl rfl (.apart rfl (by decide)) ?_
  refine .cons .retryAttempts ⟨7, by decide⟩ "007" (by decide) rfl hattempts
    (.apart rfl (by decide)) ?_
  exact .cons .logFormat .json "json" (by decide) rfl rfl hformat .nil

/-- Leading zeros, blanks and equals signs in values; the environment gives the path of the
cluster's configuration, and its name of the node is overridden. -/
theorem parse_of_writes_reconciling :
    let env : Environment := ⟨some "/etc/kube", some "other"⟩
    let args := ["-v", "2", "--node-name=n=1", "--sync-interval", " 30s",
      "--kubelet-registration-path", "", "--retry-attempts", "007", "--log-format=json"]
    env.kubeconfig ≠ some "" ∧ Assignment.reconciling.nodeName env = some "n=1" ∧
      ∃ c, parse args env = .ok c ∧ c.logFormat = .json ∧ c.verbosity = 2 ∧
        c.config =
          { Config.ofMode "n=1" "/run/csi/socket"
              (.reconcile (some "/etc/kube") (.ofSeconds 30)) with
            retry := { RetryPolicy.standard with attempts := 7 } } := by
  intro env args
  have hpath : env.kubeconfig ≠ some "" := by decide
  have hall : ∀ flag, (Assignment.reconciling flag).isSome → flag ∈ [Flag.verbosity, .nodeName,
      .syncInterval, .registrationPath, .retryAttempts, .logFormat] := by
    intro flag
    cases flag <;> decide
  obtain ⟨c, hparse, hconfig, hformat, hverbosity⟩ :=
    parse_of_writes writes_reconciling hall hpath rfl
  exact ⟨hpath, rfl, c, hparse, hformat, hverbosity, hconfig⟩

end Reading

end DriverRegistration.CommandLine
