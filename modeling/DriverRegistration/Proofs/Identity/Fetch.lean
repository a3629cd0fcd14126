import DriverRegistration.Identity.Fetch

/-!
# The identity of a driver in two timed stages

Either question is a stage of its own, with a time limit that starts with the question.  A stage
yields a text (`Yields`) or fails (`Fails`), and both are said without the function that asks.  The
identity is known exactly if both stages yield; otherwise the first one that fails tells the error
and the time.  A driver that writes down what it is asked, `Source.recorded`, tells that the second
question is put as soon as the first one has yielded a name, and not at all if it failed
(`fetch_in_stages`).
-/

namespace DriverRegistration

theorem Duration.ceilMillis_ofMillis (n : Nat) : (Duration.ofMillis n).ceilMillis = n := by
  simp only [Duration.ceilMillis, Duration.ofMillis]
  omega

namespace DriverIdentity

/-! ## One stage -/

/-- A stage of `T` milliseconds yields a text: the answer comes in time, and is this text, which is
not empty. -/
structure Yields (T : Nat) (reply : Except RpcStatus String) (delay : Nat) (text : String) :
    Prop where
  in_time : delay ≤ T
  reply_eq : reply = .ok text
  ne_empty : text ≠ ""

/-- A stage of `T` milliseconds fails: with which error, and after how many milliseconds. -/
inductive Fails (call : IdentityCall) (T : Nat) (reply : Except RpcStatus String) (delay : Nat) :
    IdentityError → Nat → Prop
  | timeout (hlate : T < delay) : Fails call T reply delay (.timeout call (.ofMillis T)) T
  | rpc {status : RpcStatus} (htime : delay ≤ T) (hreply : reply = .error status) :
    Fails call T reply delay (.rpc call status) delay
  | empty (htime : delay ≤ T) (hreply : reply = .ok "") :
    Fails call T reply delay (.empty call) delay

variable {call : IdentityCall} {T delay time : Nat} {reply : Except RpcStatus String}
  {text : String} {e : IdentityError}

theorem Yields.not_fails (h : Yields T reply delay text) : ¬ Fails call T reply delay e time := by
  intro hfails
  cases hfails with
  | timeout hlate => exact Nat.not_lt.2 h.in_time hlate
  | rpc _ hreply => exact absurd (h.reply_eq.symm.trans hreply) nofun
  | empty _ hreply => exact h.ne_empty (Except.ok.inj (h.reply_eq.symm.trans hreply))

theorem Yields.unique {other : String} (h : Yields T reply delay text)
    (h' : Yields T reply delay other) : text = other :=
  Except.ok.inj (h.reply_eq.symm.trans h'.reply_eq)

theorem Fails.unique {e' : IdentityError} {time' : Nat} (h : Fails call T reply delay e time)
    (h' : Fails call T reply delay e' time') : e = e' ∧ time = time' := by
  cases h with
  | timeout hlate =>
    cases h' with
    | timeout => exact ⟨rfl, rfl⟩
    | rpc htime => exact absurd hlate (Nat.not_lt.2 htime)
    | empty htime => exact absurd hlate (Nat.not_lt.2 htime)
  | rpc htime hreply =>
    cases h' with
    | timeout hlate => exact absurd hlate (Nat.not_lt.2 htime)
    | rpc _ hreply' => exact ⟨congrArg _ (Except.error.inj (hreply.symm.trans hreply')), rfl⟩
    | empty _ hreply' => exact absurd (hreply.symm.trans hreply') nofun
  | empty htime hreply =>
    cases h' with
    | timeout hlate => exact absurd hlate (Nat.not_lt.2 htime)
    | rpc _ hreply' => exact absurd (hreply.symm.trans hreply') nofun
    | empty => exact ⟨rfl, rfl⟩

/-- No stage takes longer than its limit. -/
theorem Fails.time_le (h : Fails call T reply delay e time) : time ≤ T := by
  cases h with
  | timeout => exact Nat.le_refl T
  | rpc htime => exact htime
  | empty htime => exact htime

/-- A question is a stage: it is answered where the stage yields, and refused where it fails. -/
theorem ask_cases (call : IdentityCall) (T delay : Nat) (reply : Except RpcStatus String) :
    (∃ text, Yields T reply delay text ∧
      ask call (.ofMillis T) ⟨reply, some delay⟩ = (.ok text, delay)) ∨
    ∃ e time, Fails call T reply delay e time ∧
      ask call (.ofMillis T) ⟨reply, some delay⟩ = (.error e, time) := by
  by_cases htime : delay ≤ T
  · have hdue : (some delay).filter (· ≤ (Duration.ofMillis T).ceilMillis) = some delay := by
      rw [Duration.ceilMillis_ofMillis]
      simp [htime]
    cases reply with
    | error status =>
      exact .inr ⟨_, _, .rpc htime rfl, by simp only [ask, hdue]⟩
    | ok text =>
      by_cases hempty : text = ""
      · subst hempty
        exact .inr ⟨_, _, .empty htime rfl, by simp only [ask, hdue, if_true]⟩
      · exact .inl ⟨text, ⟨htime, rfl, hempty⟩, by simp only [ask, hdue, if_neg hempty]⟩
  · have hlate : (some delay).filter (· ≤ (Duration.ofMillis T).ceilMillis) = none := by
      rw [Duration.ceilMillis_ofMillis]
      simpa using htime
    exact .inr ⟨_, _, .timeout (Nat.lt_of_not_le htime),
      by simp only [ask, hlate]; rw [Duration.ceilMillis_ofMillis]⟩

/-! ## Two stages -/

/-- A driver that writes down what it is asked, and when. -/
def Source.recorded {σ : Type} (source : Source σ) : Source (σ × List (IdentityCall × Nat)) where
  answer call now s :=
    let (answer, state) := source.answer call now s.1
    (answer, state, s.2 ++ [(call, now)])

/-- A driver that is asked does not notice that it is written down. -/
theorem fetchFrom_recorded {σ : Type} (source : Source σ) (limit : Duration) (s : σ)
    (log : List (IdentityCall × Nat)) :
    let run := fetchFrom source limit s
    let noted := fetchFrom source.recorded limit (s, log)
    noted.1 = run.1 ∧ noted.2.1 = run.2.1 ∧ noted.2.2.1 = run.2.2 := by
  simp only [fetchFrom, Source.recorded]
  split
  · exact ⟨rfl, rfl, rfl⟩
  · split
    · exact ⟨rfl, rfl, rfl⟩
    · exact ⟨rfl, rfl, rfl⟩

/-- How a driver is asked for its identity, if its answers come after `d₁` and `d₂` milliseconds:
the result, the time it takes, and which questions are put when. -/
inductive Exchange (T d₁ d₂ : Nat) (name nodeId : Except RpcStatus String) :
    Except IdentityError DriverIdentity → Nat → List (IdentityCall × Nat) → Prop
  | known {i : DriverIdentity} (hname : Yields T name d₁ i.name)
      (hid : Yields T nodeId d₂ i.nodeId) :
    Exchange T d₁ d₂ name nodeId (.ok i) (d₁ + d₂) [(.pluginInfo, 0), (.nodeId, d₁)]
  | nameless {e : IdentityError} {time : Nat} (hname : Fails .pluginInfo T name d₁ e time) :
    Exchange T d₁ d₂ name nodeId (.error e) time [(.pluginInfo, 0)]
  | idless {text : String} {e : IdentityError} {time : Nat} (hname : Yields T name d₁ text)
      (hid : Fails .nodeId T nodeId d₂ e time) :
    Exchange T d₁ d₂ name nodeId (.error e) (d₁ + time) [(.pluginInfo, 0), (.nodeId, d₁)]

theorem exchange_fetchFrom (T d₁ d₂ : Nat) (name nodeId : Except RpcStatus String) :
    let source := Source.fixed ⟨name, some d₁⟩ ⟨nodeId, some d₂⟩
    let run := fetchFrom source.recorded (.ofMillis T) ((), [])
    Exchange T d₁ d₂ name nodeId run.1 run.2.1 run.2.2.2 := by
  obtain ⟨text, hname, hask⟩ | ⟨e, time, hname, hask⟩ := ask_cases .pluginInfo T d₁ name
  · obtain ⟨text', hid, hask'⟩ | ⟨e, time, hid, hask'⟩ := ask_cases .nodeId T d₂ nodeId
    · simp only [fetchFrom, Source.recorded, Source.fixed, hask, hask']
      exact .known (i := ⟨text, text'⟩) hname hid
    · simp only [fetchFrom, Source.recorded, Source.fixed, hask, hask']
      exact .idless hname hid
  · simp only [fetchFrom, Source.recorded, Source.fixed, hask]
    exact .nameless hname

variable {d₁ d₂ : Nat} {name nodeId : Except RpcStatus String} {elapsed : Nat}
  {result : Except IdentityError DriverIdentity} {questions : List (IdentityCall × Nat)}

theorem Exchange.ok_iff (h : Exchange T d₁ d₂ name nodeId result elapsed questions)
    (i : DriverIdentity) (time : Nat) :
    result = .ok i ∧ elapsed = time ↔
      Yields T name d₁ i.name ∧ Yields T nodeId d₂ i.nodeId ∧ time = d₁ + d₂ := by
  cases h with
  | @known found hname hid =>
    constructor
    · rintro ⟨⟨⟩, rfl⟩
      exact ⟨hname, hid, rfl⟩
    · rintro ⟨hname', hid', rfl⟩
      obtain ⟨foundName, foundId⟩ := found
      obtain rfl : foundName = i.name := hname.unique hname'
      obtain rfl : foundId = i.nodeId := hid.unique hid'
      exact ⟨rfl, rfl⟩
  | nameless hname =>
    refine iff_of_false nofun ?_
    rintro ⟨hname', -, -⟩
    exact hname'.not_fails hname
  | idless hname hid =>
    refine iff_of_false nofun ?_
    rintro ⟨-, hid', -⟩
    exact hid'.not_fails hid

theorem Exchange.error_iff (h : Exchange T d₁ d₂ name nodeId result elapsed questions)
    (e : IdentityError) (time : Nat) :
    result = .error e ∧ elapsed = time ↔
      Fails .pluginInfo T name d₁ e time ∨
        ∃ text more, Yields T name d₁ text ∧ Fails .nodeId T nodeId d₂ e more ∧
          time = d₁ + more := by
  cases h with
  | known hname hid =>
    refine iff_of_false nofun ?_
    rintro (hfails | ⟨text, more, -, hfails, -⟩)
    · exact hname.not_fails hfails
    · exact hid.not_fails hfails
  | nameless hname =>
    constructor
    · rintro ⟨⟨⟩, rfl⟩
      exact .inl hname
    · rintro (hfails | ⟨text, more, hyields, -, -⟩)
      · obtain ⟨rfl, rfl⟩ := hname.unique hfails
        exact ⟨rfl, rfl⟩
      · exact absurd hname hyields.not_fails
  | idless hname hid =>
    constructor
    · rintro ⟨⟨⟩, rfl⟩
      exact .inr ⟨_, _, hname, hid, rfl⟩
    · rintro (hfails | ⟨text, more, -, hfails, rfl⟩)
      · exact absurd hfails hname.not_fails
      · obtain ⟨rfl, rfl⟩ := hid.unique hfails
        exact ⟨rfl, rfl⟩

/-- The node id is asked for exactly if the first stage yields, and as soon as it does. -/
theorem Exchange.questions_iff (h : Exchange T d₁ d₂ name nodeId result elapsed questions) :
    (questions = [(.pluginInfo, 0), (.nodeId, d₁)] ↔ ∃ text, Yields T name d₁ text) ∧
      (questions = [(.pluginInfo, 0)] ↔ ¬ ∃ text, Yields T name d₁ text) := by
  cases h with
  | known hname | idless hname =>
    exact ⟨iff_of_true rfl ⟨_, hname⟩, iff_of_false (by simp) (not_not_intro ⟨_, hname⟩)⟩
  | nameless hname =>
    have hnot : ¬ ∃ text, Yields T name d₁ text := fun ⟨_, hyields⟩ => hyields.not_fails hname
    exact ⟨iff_of_false (by simp) hnot, iff_of_true rfl hnot⟩

theorem Exchange.elapsed_le (h : Exchange T d₁ d₂ name nodeId result elapsed questions) :
    elapsed ≤ 2 * T := by
  cases h with
  | known hname hid =>
    have := hname.in_time
    have := hid.in_time
    omega
  | nameless hname =>
    have := hname.time_le
    omega
  | idless hname hid =>
    have := hname.in_time
    have := hid.time_le
    omega

/-- A driver is asked for its name and then for its node id, which it answers after `d₁` and `d₂`
milliseconds.  Each question has a limit of `T` milliseconds of its own, and the first one that
fails decides what comes of both, and when. -/
theorem fetch_in_stages (T d₁ d₂ : Nat) (name nodeId : Except RpcStatus String) :
    let source := Source.fixed ⟨name, some d₁⟩ ⟨nodeId, some d₂⟩
    let run := fetchFrom source.recorded (.ofMillis T) ((), [])
    let result := run.1
    let elapsed := run.2.1
    let questions := run.2.2.2
    fetch (.ofMillis T) ⟨name, some d₁⟩ ⟨nodeId, some d₂⟩ = (result, elapsed) ∧
    (∀ i time, result = .ok i ∧ elapsed = time ↔
      Yields T name d₁ i.name ∧ Yields T nodeId d₂ i.nodeId ∧ time = d₁ + d₂) ∧
    (∀ e time, result = .error e ∧ elapsed = time ↔
      Fails .pluginInfo T name d₁ e time ∨
        ∃ text more, Yields T name d₁ text ∧ Fails .nodeId T nodeId d₂ e more ∧
          time = d₁ + more) ∧
    (questions = [(.pluginInfo, 0), (.nodeId, d₁)] ↔ ∃ text, Yields T name d₁ text) ∧
    (questions = [(.pluginInfo, 0)] ↔ ¬ ∃ text, Yields T name d₁ text) ∧
    elapsed ≤ 2 * T := by
  intro source run result elapsed questions
  have h : Exchange T d₁ d₂ name nodeId result elapsed questions :=
    exchange_fetchFrom T d₁ d₂ name nodeId
  obtain ⟨hresult, helapsed, -⟩ := fetchFrom_recorded source (.ofMillis T) () []
  exact ⟨Prod.ext hresult.symm helapsed.symm, h.ok_iff, h.error_iff, h.questions_iff.1,
    h.questions_iff.2, h.elapsed_le⟩

/- An answer that is due just when the time is up counts, and the second limit starts anew. -/
example : fetch (.ofMillis 5) ⟨.ok "d", some 5⟩ ⟨.ok "n", some 5⟩ = (.ok ⟨"d", "n"⟩, 10) ∧
    fetch (.ofMillis 5) ⟨.ok "d", some 4⟩ ⟨.ok "n", some 6⟩ =
      (.error (.timeout .nodeId (.ofMillis 5)), 9) := ⟨rfl, rfl⟩

end DriverIdentity

end DriverRegistration
