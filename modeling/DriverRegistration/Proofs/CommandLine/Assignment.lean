import DriverRegistration.Proofs.CommandLine.Values

/-!
# Assignments and their arguments

An `Assignment` gives values to some of the options.  It is written as arguments (`Writes`) option
by option, in any order, each with any text that spells its value, and a long option with the text
in an argument of its own or after an equals sign.  Whatever the order, what the options given so
far record is settled by the look-up of each option (`Records`), which one more option extends by
its own text and no other.  An option that is read may stay pending until the next one is met, so
the loop keeps that its options are recorded once the pending one is settled
(`arguments_of_writes`).
-/

namespace DriverRegistration.CommandLine

/-! ## Shapes of arguments -/

section Shapes

variable {name text : String}

theorem kept_of_notMem {cs : List Char} (h : '=' ∉ cs) :
    ∀ c ∈ cs, decide (c ≠ '=') = true := by
  intro c hc
  rw [decide_eq_true_eq]
  rintro rfl
  exact h hc

theorem splitEquals_of_notMem {cs : List Char} (h : '=' ∉ cs) : splitEquals cs = (cs, none) := by
  simp only [splitEquals, List.dropWhile_eq_nil_iff.2 (kept_of_notMem h)]

theorem splitEquals_append {cs : List Char} (h : '=' ∉ cs) (ds : List Char) :
    splitEquals (cs ++ '=' :: ds) = (cs, some ds) := by
  have hdrop : (cs ++ '=' :: ds).dropWhile (fun c => decide (c ≠ '=')) = '=' :: ds := by
    rw [List.dropWhile_append_of_pos (kept_of_notMem h), List.dropWhile_cons_of_neg (by decide)]
  have htake : (cs ++ '=' :: ds).takeWhile (fun c => decide (c ≠ '=')) = cs := by
    rw [List.takeWhile_append_of_pos (kept_of_notMem h), List.takeWhile_cons_of_neg (by decide),
      List.append_nil]
  simp only [splitEquals, hdrop, htake]

/-- Two hyphens and more are a long option. -/
theorem shape_of_long {arg : String} {cs : List Char} (hcs : cs ≠ [])
    (h : arg.toList = '-' :: '-' :: cs) :
    Shape.of arg =
      .long (String.ofList (splitEquals cs).1) ((splitEquals cs).2.map String.ofList) := by
  obtain ⟨c, cs, rfl⟩ := List.exists_cons_of_ne_nil hcs
  simp only [Shape.of, h]

theorem shape_of_name (hne : name ≠ "") (hname : '=' ∉ name.toList) :
    Shape.of ("--" ++ name) = .long name none := by
  have hlist : ("--" ++ name).toList = '-' :: '-' :: name.toList := by
    rw [String.toList_append]
    rfl
  rw [shape_of_long (by simpa using hne) hlist, splitEquals_of_notMem hname, String.ofList_toList]
  rfl

theorem shape_of_attached (hname : '=' ∉ name.toList) :
    Shape.of ("--" ++ name ++ "=" ++ text) = .long name (some text) := by
  have hlist : ("--" ++ name ++ "=" ++ text).toList =
      '-' :: '-' :: (name.toList ++ '=' :: text.toList) := by
    simp only [String.toList_append, List.append_assoc]
    rfl
  rw [shape_of_long (by simp) hlist, splitEquals_append hname, String.ofList_toList]
  simp only [Option.map_some, String.ofList_toList]

/-- What does not begin with a hyphen is no option. -/
theorem shape_of_value (h : text.toList.head? ≠ some '-') : Shape.of text = .bare := by
  unfold Shape.of
  split
  · next hlist => exact absurd (by rw [hlist]; rfl) h
  · next hlist => exact absurd (by rw [hlist]; rfl) h
  · next hlist => exact absurd (by rw [hlist]; rfl) h
  · rfl

end Shapes

/-! ## Names of options -/

section Names

variable {flag : Flag} {name : String}

theorem ofLongName?_of_longName? (h : flag.longName? = some name) :
    Flag.ofLongName? name = some flag := by
  cases flag <;> cases h <;> decide

/-- No long name is one of those that ask for a text, and none has an equals sign in it. -/
theorem plain_of_longName? (h : flag.longName? = some name) :
    name ≠ "" ∧ '=' ∉ name.toList ∧ name ≠ "help" ∧ name ≠ "version" := by
  cases flag <;> cases h <;> decide

end Names

/-! ## Assignments and their arguments -/

/-- Values of some of the options. -/
def Assignment : Type := (flag : Flag) → Option flag.kind.Value

/-- The arguments for an option with a text. -/
inductive Written : Flag → String → List String → Prop
  /-- The text is an argument of its own, which is not taken for an option. -/
  | apart {flag : Flag} {name text : String} (hname : flag.longName? = some name)
    (htext : text.toList.head? ≠ some '-') : Written flag text ["--" ++ name, text]
  | attached {flag : Flag} {name text : String} (hname : flag.longName? = some name)
    (htext : text ≠ "") : Written flag text ["--" ++ name ++ "=" ++ text]
  | short {text : String} : Written .verbosity text ["-v", text]

/-- The arguments that write some options of an assignment, in an order in which no option comes
twice. -/
inductive Writes (a : Assignment) : List Flag → List String → Prop
  | nil : Writes a [] []
  | cons (flag : Flag) (value : flag.kind.Value) (text : String) {flags : List Flag}
    {words args : List String} (hnew : flag ∉ flags) (hvalue : a flag = some value)
    (htext : flag.kind.Spells value text) (hwords : Written flag text words)
    (hrest : Writes a flags args) : Writes a (flag :: flags) (words ++ args)

/-- The options given are those that are done: each of them with a text that spells its value in an
assignment, and no other one. -/
def Records (a : Assignment) (done : Flag → Prop) (given : Given) : Prop :=
  ∀ flag, (done flag ∧ ∃ value text, a flag = some value ∧ flag.kind.Spells value text ∧
      given.lookup flag = some text) ∨
    (¬ done flag ∧ given.lookup flag = none)

section Loop

variable {a : Assignment} {done : Flag → Prop} {given settled : Given} {pending : Pending}
  {flag : Flag} {value : flag.kind.Value} {name text : String} {words : List String}

theorem Records.lookup_of_not (h : Records a done given) (hnew : ¬ done flag) :
    given.lookup flag = none := by
  obtain ⟨hdone, -⟩ | ⟨-, hlookup⟩ := h flag
  · exact absurd hdone hnew
  · exact hlookup

theorem records_nil (a : Assignment) : Records a (fun _ => False) [] := fun _ =>
  .inr ⟨not_false, rfl⟩

/-- One more option is recorded with its own text, and the others as before. -/
theorem Records.cons (h : Records a done given) (hvalue : a flag = some value)
    (htext : flag.kind.Spells value text) :
    Records a (fun other => done other ∨ other = flag) ((flag, text) :: given) := by
  intro other
  by_cases hother : other = flag
  · subst hother
    exact .inl ⟨.inr rfl, value, text, hvalue, htext, by simp⟩
  · have hlookup : ((flag, text) :: given).lookup other = given.lookup other := by
      rw [List.lookup_cons, beq_eq_false_iff_ne.2 hother]
    rw [hlookup]
    obtain ⟨hdone, hgiven⟩ | ⟨hnot, hgiven⟩ := h other
    · exact .inl ⟨.inl hdone, hgiven⟩
    · exact .inr ⟨not_or.2 ⟨hnot, hother⟩, hgiven⟩

theorem accept_eq_ok (hnone : given.lookup flag = none) (htext : flag.kind.Spells value text) :
    accept given flag text = .ok ((flag, text) :: given) := by
  simp only [accept, hnone, Option.isSome_none, Bool.false_eq_true, if_false, check_of_spells htext]
  rfl

/-! ### One argument -/

theorem arguments_cons {arg : String} {args : List String} {given' : Given} {pending' : Pending}
    (hshape : Shape.of arg ≠ .terminator)
    (h : argument given pending arg = .ok (given', pending')) :
    arguments given pending (arg :: args) = arguments given' pending' args := by
  rw [arguments.eq_def]
  simp only [if_neg hshape, h]
  rfl

theorem argument_of_long {attached : Option String} {arg : String}
    (hname : flag.longName? = some name) (hshape : Shape.of arg = .long name attached) :
    argument given pending arg = take given pending flag attached := by
  obtain ⟨-, -, hhelp, hversion⟩ := plain_of_longName? hname
  simp only [argument, hshape, if_neg hhelp, if_neg hversion, ofLongName?_of_longName? hname]

/-- An option whose text comes next settles what was pending. -/
theorem take_none (h : settle given pending = .ok settled) :
    take given pending flag none = .ok (settled, some (flag, none)) := by
  simp only [take, h]
  rfl

theorem take_some (h : settle given pending = .ok settled) (hnone : settled.lookup flag = none)
    (htext : flag.kind.Spells value text) :
    take given pending flag (some text) = .ok ((flag, text) :: settled, none) := by
  simp only [take, h, Bind.bind, Except.bind, accept_eq_ok hnone htext]
  rfl

theorem argument_of_value (h : text.toList.head? ≠ some '-') :
    argument given (some (flag, none)) text = .ok (given, some (flag, some text)) := by
  simp only [argument, shape_of_value h]

/-- An option that waits for its text takes the next argument. -/
theorem arguments_of_value {args : List String} {arg : String} (hshape : Shape.of arg ≠ .terminator)
    (harg : argument given pending arg = take given pending flag none)
    (h : settle given pending = .ok settled) (htext : text.toList.head? ≠ some '-') :
    arguments given pending (arg :: text :: args) =
      arguments settled (some (flag, some text)) args := by
  have hvalue : Shape.of text ≠ .terminator := by
    rw [shape_of_value htext]
    nofun
  rw [arguments_cons hshape (harg.trans (take_none h)),
    arguments_cons hvalue (argument_of_value htext)]

/-! ### One option -/

/-- The text of a number does not begin with a hyphen. -/
theorem head_ne_of_decimal {n : Nat} (h : Text.Decimal n text.toList) :
    text.toList.head? ≠ some '-' := by
  intro hhead
  exact absurd (h.2.1 '-' (List.mem_of_head? hhead)) (by decide)

/-- The arguments of an option are taken together: whatever was pending is settled, and so is the
option itself, at the latest when it is its turn. -/
theorem arguments_of_written (hwords : Written flag text words)
    (htext : flag.kind.Spells value text) (h : settle given pending = .ok settled)
    (hnone : settled.lookup flag = none) (args : List String) :
    ∃ given' pending', settle given' pending' = .ok ((flag, text) :: settled) ∧
      arguments given pending (words ++ args) = arguments given' pending' args := by
  have haccept := accept_eq_ok hnone htext
  cases hwords with
  | @apart _ name _ hname hvalue =>
    obtain ⟨hne, hplain, -, -⟩ := plain_of_longName? hname
    have hshape := shape_of_name hne hplain
    exact ⟨settled, some (flag, some text), haccept,
      arguments_of_value (by rw [hshape]; nofun) (argument_of_long hname hshape) h hvalue⟩
  | @attached _ name _ hname hne =>
    have hshape : Shape.of ("--" ++ name ++ "=" ++ text) = .long name (some text) :=
      shape_of_attached (plain_of_longName? hname).2.1
    exact ⟨(flag, text) :: settled, none, rfl,
      arguments_cons (by rw [hshape]; nofun)
        ((argument_of_long hname hshape).trans (take_some h hnone htext))⟩
  | short =>
    have hshape : Shape.of "-v" = .short 'v' [] := by decide
    exact ⟨settled, some (.verbosity, some text), haccept,
      arguments_of_value (by decide) (by simp only [argument, hshape]; rfl) h
        (head_ne_of_decimal htext)⟩

/-! ### All options -/

/-- The induction is on the options that are still to come; what carries it is that the options
given so far, and the pending one, record those that are done. -/
theorem arguments_of_writes {flags : List Flag} {args : List String} (hargs : Writes a flags args)
    (hsettle : settle given pending = .ok settled) (h : Records a done settled)
    (hnew : ∀ flag ∈ flags, ¬ done flag) :
    ∃ final, arguments given pending args = .ok final ∧
      Records a (fun flag => done flag ∨ flag ∈ flags) final := by
  induction hargs generalizing given pending settled done with
  | nil =>
    refine ⟨settled, hsettle, ?_⟩
    simpa only [List.not_mem_nil, or_false] using h
  | @cons flag value text flags words args hfirst hvalue htext hwords hrest ih =>
    obtain ⟨hflag, hflags⟩ := List.forall_mem_cons.1 hnew
    obtain ⟨given', pending', hsettle', harguments⟩ :=
      arguments_of_written hwords htext hsettle (h.lookup_of_not hflag) args
    have hnew' : ∀ other ∈ flags, ¬ (done other ∨ other = flag) := by
      rintro other hother (hdone | rfl)
      · exact hflags other hother hdone
      · exact hfirst hother
    obtain ⟨final, hfinal, hrecords⟩ := ih hsettle' (h.cons hvalue htext) hnew'
    refine ⟨final, harguments.trans hfinal, ?_⟩
    simpa only [List.mem_cons, or_assoc] using hrecords

end Loop

end DriverRegistration.CommandLine
