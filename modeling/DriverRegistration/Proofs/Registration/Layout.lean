import DriverRegistration.Registration.Info
import DriverRegistration.Proofs.Json.Members

/-!
# Answers in any layout

What a plugin says about itself is read from an object that has its four members, whatever their
order is, however their strings are escaped, and whatever blanks and further members stand between
them (`decode_object_iff`), and from the list of the four values (`decode_of_list`).  What is
written for it is such an object (`holds_encode`).
-/

namespace DriverRegistration

open Json

namespace RegistrationInfo

/-- The keys of the four members. -/
def memberNames : List String := ["type", "name", "endpoint", "supportedVersions"]

/-! ## One member -/

/-- What a member makes of the members before it: its key puts its value into one of the slots, or
into none. -/
def Takes (key : String) (v : List Char) (d d' : Draft) : Prop :=
  Puts "type" Literal key v d.pluginType d'.pluginType ∧
    Puts "name" Literal key v d.name d'.name ∧
    Puts "endpoint" Literal key v d.endpoint d'.endpoint ∧
    Puts "supportedVersions" (ListOf Literal) key v d.versions d'.versions

theorem versionList_reads : Reads versionList (ListOf Literal) :=
  listValue_reads textValue_reads "a sequence"

/-- A value that is read into a slot of the draft. -/
theorem slot_iff {α : Type} {value : List Char → Except Fault (α × List Char)}
    {P : List Char → α → Prop} (hvalue : Reads value P) (key : String) {met : Option α}
    {b c v rest rest' : List Char} (hb : Blanks b) (hc : Blanks c) (hv : Spells .value v)
    (hrest : Ends rest) (put : Option α → Draft) {d : Draft} :
    (do let (a, r) ← onceOnly key met value (b ++ ':' :: (c ++ (v ++ rest)))
        return (put a, r)) = .ok (d, rest') ↔
      rest' = rest ∧ met = none ∧ ∃ a, P v a ∧ d = put (some a) := by
  rw [bind_eq_ok_iff]
  constructor
  · rintro ⟨⟨found, r⟩, hfound, h⟩
    obtain ⟨rfl, hmet, a, hP, rfl⟩ := (onceOnly_iff hvalue key hb hc hv hrest).1 hfound
    cases h
    exact ⟨rfl, hmet, a, hP, rfl⟩
  · rintro ⟨rfl, hmet, a, hP, rfl⟩
    exact ⟨(some a, rest'), (onceOnly_iff hvalue key hb hc hv hrest).2 ⟨rfl, hmet, a, hP, rfl⟩, rfl⟩

theorem member_reads : ReadsMember member Takes := by
  intro key d d' b c v rest rest' hb hc hv hrest
  obtain ⟨type', name', endpoint', versions'⟩ := d'
  unfold member
  split_ifs with htype hname hendpoint hversions
  · rw [slot_iff textValue_reads _ hb hc hv hrest fun a => { d with pluginType := a }]
    grind [Takes, Puts]
  · rw [slot_iff textValue_reads _ hb hc hv hrest fun a => { d with name := a }]
    grind [Takes, Puts]
  · rw [slot_iff textValue_reads _ hb hc hv hrest fun a => { d with endpoint := a }]
    grind [Takes, Puts]
  · rw [slot_iff versionList_reads _ hb hc hv hrest fun a => { d with versions := a }]
    grind [Takes, Puts]
  · have hread : (do return (d, ← ignoredValue (← colon (b ++ ':' :: (c ++ (v ++ rest)))))) =
        (.ok (d, rest) : Except Fault (Draft × List Char)) := by
      simp only [colon_append hb, ignoredValue_append hc hv hrest, bind, Except.bind, pure,
        Except.pure]
    rw [hread]
    simp only [Takes, puts_iff_of_ne htype, puts_iff_of_ne hname, puts_iff_of_ne hendpoint,
      puts_iff_of_ne hversions]
    constructor
    · intro h
      cases h
      exact ⟨rfl, rfl, rfl, rfl, rfl⟩
    · rintro ⟨rfl, rfl, rfl, rfl, rfl⟩
      rfl

/-! ## All members -/

/-- The slots are filled side by side. -/
theorem run_takes_iff {ms : List (List Char × List Char)} {d d' : Draft} :
    Run Takes ms d d' ↔
      Run (Puts "type" Literal) ms d.pluginType d'.pluginType ∧
        Run (Puts "name" Literal) ms d.name d'.name ∧
        Run (Puts "endpoint" Literal) ms d.endpoint d'.endpoint ∧
        Run (Puts "supportedVersions" (ListOf Literal)) ms d.versions d'.versions := by
  constructor
  · intro h
    exact ⟨h.map Draft.pluginType fun _ _ _ _ h => h.1, h.map Draft.name fun _ _ _ _ h => h.2.1,
      h.map Draft.endpoint fun _ _ _ _ h => h.2.2.1, h.map Draft.versions fun _ _ _ _ h => h.2.2.2⟩
  · induction ms generalizing d with
    | nil =>
      obtain ⟨type, name, endpoint, versions⟩ := d
      obtain ⟨type', name', endpoint', versions'⟩ := d'
      simp only [run_nil_iff]
      rintro ⟨rfl, rfl, rfl, rfl⟩
      rfl
    | cons m ms ih =>
      simp only [run_cons_iff]
      rintro ⟨⟨key, type, hk, htype, htypes⟩, ⟨key₁, name, hk₁, hname, hnames⟩,
        ⟨key₂, endpoint, hk₂, hendpoint, hendpoints⟩, ⟨key₃, versions, hk₃, hversions, hlists⟩⟩
      -- each slot has its own run, and all of them read the same key
      obtain rfl := hk.unique hk₁
      obtain rfl := hk.unique hk₂
      obtain rfl := hk.unique hk₃
      exact ⟨key, ⟨type, name, endpoint, versions⟩, hk, ⟨htype, hname, hendpoint, hversions⟩,
        ih ⟨htypes, hnames, hendpoints, hlists⟩⟩

theorem finish_eq_ok_iff {d : Draft} {i : RegistrationInfo} :
    d.finish = .ok i ↔ d = ⟨some i.pluginType, some i.name, some i.endpoint, some i.versions⟩ := by
  obtain ⟨type, name, endpoint, versions⟩ := d
  simp only [Draft.finish, bind_eq_ok_iff, required_eq_ok_iff]
  constructor
  · rintro ⟨_, rfl, _, rfl, _, rfl, _, rfl, h⟩
    cases h
    rfl
  · intro h
    cases h
    exact ⟨_, rfl, _, rfl, _, rfl, _, rfl, rfl⟩

/-! ## Objects -/

/-- The parts of an answer, each by the key of its member and by what holds of the value. -/
def parts (i : RegistrationInfo) : List (String × (List Char → Prop)) :=
  [("type", (Literal · i.pluginType)), ("name", (Literal · i.name)),
    ("endpoint", (Literal · i.endpoint)), ("supportedVersions", (ListOf Literal · i.versions))]

theorem keys_parts (i : RegistrationInfo) : (parts i).map Prod.fst = memberNames := rfl

theorem nodup_keys_parts (i : RegistrationInfo) : ((parts i).map Prod.fst).Nodup := by
  rw [keys_parts]
  decide

/-- The members of an object make an answer if and only if they comprise its parts. -/
theorem run_finish_iff {ms : List (List Char × List Char)} {i : RegistrationInfo} :
    (∃ d, Run Takes ms {} d ∧ d.finish = .ok i) ↔ Comprises (parts i) ms := by
  rw [comprises_iff (nodup_keys_parts i)]
  simp only [finish_eq_ok_iff, exists_eq_right, run_takes_iff, run_puts_iff, parts,
    List.forall_mem_cons]
  constructor
  · rintro ⟨⟨hnamed, htype⟩, ⟨-, hname⟩, ⟨-, hendpoint⟩, -, hversions⟩
    exact ⟨hnamed, htype, hname, hendpoint, hversions, nofun⟩
  · rintro ⟨hnamed, htype, hname, hendpoint, hversions, -⟩
    exact ⟨⟨hnamed, htype⟩, ⟨hnamed, hname⟩, ⟨hnamed, hendpoint⟩, hnamed, hversions⟩

/-! ## Lists -/

/-- The elements of a list that gives an answer: its parts, in this order. -/
inductive Listed : List (List Char) → RegistrationInfo → Prop
  | mk {t n e v : List Char} {i : RegistrationInfo} (htype : Literal t i.pluginType)
      (hname : Literal n i.name) (hendpoint : Literal e i.endpoint)
      (hversions : ListOf Literal v i.versions) : Listed [t, n, e, v] i

theorem listed_append {vs : List (List Char)} {cs : List Char} {i : RegistrationInfo}
    (hi : Listed vs i) (h : Spells (.elements vs) cs) (rest : List Char) :
    listed (cs ++ ']' :: rest) = .ok (i, rest) := by
  obtain ⟨htype, hname, hendpoint, hversions⟩ := hi
  obtain ⟨lead₁, cs₁, hlead₁, h₁, hread₁⟩ :=
    nextValue_element textValue_reads expectedList 0 opensElement_first h htype rest
  obtain ⟨lead₂, cs₂, hlead₂, h₂, hread₂⟩ :=
    nextValue_element textValue_reads expectedList 1 hlead₁ h₁ hname rest
  obtain ⟨lead₃, cs₃, hlead₃, h₃, hread₃⟩ :=
    nextValue_element textValue_reads expectedList 2 hlead₂ h₂ hendpoint rest
  obtain ⟨b, hb, hread₄⟩ :=
    nextValue_lastElement versionList_reads expectedList 3 hlead₃ h₃ hversions rest
  rw [List.nil_append] at hread₁
  simp only [listed, hread₁, hread₂, hread₃, hread₄, endOfList_append hb, bind, Except.bind, pure,
    Except.pure]

/-! ## Documents -/

/-- A text that is one phrase, with blanks around it. -/
def Holds (raw : String) (p : Phrase) : Prop :=
  ∃ a v b, Blanks a ∧ Spells p v ∧ Blanks b ∧ raw.toList = a ++ (v ++ b)

/-- An object is read as the answer whose parts its members comprise. -/
theorem value_object_iff {a v rest rest' : List Char} {ms : List (List Char × List Char)}
    {i : RegistrationInfo} (ha : Blanks a) (hv : Spells (.object ms) v) :
    value (a ++ (v ++ rest)) = .ok (i, rest') ↔ rest' = rest ∧ Comprises (parts i) ms := by
  obtain ⟨u, rfl⟩ := hv.exists_brace
  have hread : value (a ++ ('\x7b' :: u ++ rest)) = object member {} Draft.finish (u ++ rest) := by
    simp only [value, startOfValue, List.cons_append, bind, Except.bind,
      skipBlanks_append_cons ha (show isBlank '\x7b' = false from rfl)]
  rw [hread, object_iff member_reads hv, run_finish_iff]

theorem value_list_append {a v : List Char} {vs : List (List Char)} {i : RegistrationInfo}
    (ha : Blanks a) (hv : Spells (.list vs) v) (hi : Listed vs i) (rest : List Char) :
    value (a ++ (v ++ rest)) = .ok (i, rest) := by
  cases hv with
  | emptyList _ => cases hi
  | @filledList cs _ h =>
    have hread : value (a ++ ('[' :: (cs ++ [']']) ++ rest)) = listed (cs ++ ']' :: rest) := by
      simp only [value, startOfValue, List.cons_append, List.append_assoc, List.nil_append, bind,
        Except.bind, skipBlanks_append_cons ha (show isBlank '[' = false from rfl)]
    rw [hread]
    exact listed_append hi h rest

theorem decode_eq_ok_iff {raw : String} {i : RegistrationInfo} :
    decode raw = .ok i ↔ ∃ b, value raw.toList = .ok (i, b) ∧ endOfText b = .ok () := by
  have hmap : decode raw = .ok i ↔ document raw.toList = .ok i := by
    unfold decode
    cases document raw.toList with
    | error f => exact ⟨nofun, nofun⟩
    | ok j => exact ⟨fun h => congrArg _ (Except.ok.inj h), fun h => congrArg _ (Except.ok.inj h)⟩
  rw [hmap, document, bind_eq_ok_iff]
  constructor
  · rintro ⟨⟨j, b⟩, hvalue, h⟩
    obtain ⟨⟨⟩, hend, h⟩ := bind_eq_ok_iff.1 h
    cases h
    exact ⟨b, hvalue, hend⟩
  · rintro ⟨b, hvalue, hend⟩
    exact ⟨(i, b), hvalue, bind_eq_ok_iff.2 ⟨(), hend, rfl⟩⟩

/-- An object is read as the answer whose parts its members comprise, and refused otherwise. -/
theorem decode_object_iff {raw : String} {ms : List (List Char × List Char)} {i : RegistrationInfo}
    (h : Holds raw (.object ms)) : decode raw = .ok i ↔ Comprises (parts i) ms := by
  obtain ⟨a, v, b, ha, hv, hb, hraw⟩ := h
  simp only [decode_eq_ok_iff, hraw, value_object_iff ha hv]
  constructor
  · rintro ⟨_, ⟨rfl, hms⟩, -⟩
    exact hms
  · intro hms
    exact ⟨b, ⟨rfl, hms⟩, endOfText_of_blanks hb⟩

theorem decode_of_list {raw : String} {vs : List (List Char)} {i : RegistrationInfo}
    (h : Holds raw (.list vs)) (hi : Listed vs i) : decode raw = .ok i := by
  obtain ⟨a, v, b, ha, hv, hb, hraw⟩ := h
  rw [decode_eq_ok_iff, hraw]
  exact ⟨b, value_list_append ha hv hi b, endOfText_of_blanks hb⟩

/-- An object is refused that lacks one of the four keys, or has one of them twice. -/
theorem decode_refuses {raw : String} {ms : List (List Char × List Char)} {key : String}
    (h : Holds raw (.object ms)) (hkey : key ∈ memberNames) (hms : Lacks key ms ∨ Repeats key ms) :
    ∃ refusal, decode raw = .error refusal := by
  cases hdecode : decode raw with
  | error refusal => exact ⟨refusal, rfl⟩
  | ok i =>
    obtain ⟨-, honce⟩ := (comprises_iff (nodup_keys_parts i)).1 ((decode_object_iff h).1 hdecode)
    rw [← keys_parts i] at hkey
    obtain ⟨part, hpart, rfl⟩ := List.mem_map.1 hkey
    rcases hms with hms | hms
    · exact absurd (honce part hpart) (not_once_of_lacks hms)
    · exact absurd (honce part hpart) (not_once_of_repeats hms)

/-! ## Written answers -/

theorem listOf_written (ss : List String) :
    ListOf Literal (writtenList (ss.map writtenText)) ss := by
  refine ⟨ss.map writtenText, spells_writtenList ?_, ?_⟩
  · intro v hv
    obtain ⟨s, -, rfl⟩ := List.mem_map.1 hv
    exact (literal_writtenText s).spells
  · rw [List.forall₂_map_left_iff, List.forall₂_same]
    exact fun s _ => literal_writtenText s

/-- The members of an answer as they are written. -/
def writtenMembers (i : RegistrationInfo) : List (String × List Char) :=
  [("type", writtenText i.pluginType), ("name", writtenText i.name),
    ("endpoint", writtenText i.endpoint),
    ("supportedVersions", writtenList (i.versions.map writtenText))]

theorem holds_encode (i : RegistrationInfo) :
    Holds (encode i) (.object ((writtenMembers i).map spelledMember)) := by
  have hobject : Spells (.object ((writtenMembers i).map spelledMember))
      (writtenObject (writtenMembers i)) := by
    obtain ⟨vs, hversions, -⟩ := listOf_written i.versions
    refine spells_writtenObject ?_
    simp only [writtenMembers, List.forall_mem_cons]
    exact ⟨(literal_writtenText _).spells, (literal_writtenText _).spells,
      (literal_writtenText _).spells, .list hversions, nofun⟩
  refine ⟨[], _, [], blanks_nil, hobject, blanks_nil, ?_⟩
  rw [List.nil_append, List.append_nil, encode, String.toList_ofList]
  rfl

theorem comprises_written (i : RegistrationInfo) :
    Comprises (parts i) ((writtenMembers i).map spelledMember) := by
  refine ⟨_, [], .of_eq (List.append_nil _).symm, ?_, List.forall_mem_nil _⟩
  exact .cons ⟨body_written _, literal_writtenText _⟩ <|
    .cons ⟨body_written _, literal_writtenText _⟩ <|
      .cons ⟨body_written _, literal_writtenText _⟩ <|
        .cons ⟨body_written _, listOf_written _⟩ .nil

/-! ## The theorem -/

/-- An answer is read from an object in any layout whose members are its parts, each of them once,
among any others.  It is also read from what is written for it, and from the list of its values. -/
theorem decode_layout :
    (∀ i, decode (encode i) = .ok i) ∧
      (∀ raw ms, Holds raw (.object ms) →
        (∀ i, decode raw = .ok i ↔ Comprises (parts i) ms) ∧
          ∀ key ∈ memberNames, Lacks key ms ∨ Repeats key ms →
            ∃ refusal, decode raw = .error refusal) ∧
      ∀ raw vs i, Holds raw (.list vs) → Listed vs i → decode raw = .ok i := by
  refine ⟨fun i => ?_, fun raw ms h => ⟨fun i => decode_object_iff h, fun key hkey hms => ?_⟩,
    fun raw vs i h hi => decode_of_list h hi⟩
  · exact (decode_object_iff (holds_encode i)).2 (comprises_written i)
  · exact decode_refuses h hkey hms

/-- An answer as an object: its members are out of order, one of its keys is escaped, and one member
is unknown and holds a list. -/
def mixedText : String :=
  "\n\x7b \"endpoint\":\"/e\" ,\"x\":[-1.5e2,\x7b\x7d],\"t\\u0079pe\":\"T\"," ++
    "\"name\":\"N\",\"supportedVersions\":[\"1.0\"]\x7d"

def mixedMembers : List (List Char × List Char) :=
  [("endpoint".toList, "\"/e\"".toList), ("x".toList, "[-1.5e2,\x7b\x7d]".toList),
    ("t\\u0079pe".toList, "\"T\"".toList), ("name".toList, "\"N\"".toList),
    ("supportedVersions".toList, "[\"1.0\"]".toList)]

theorem literal_of_plain (s : String)
    (h : (s.toList.all fun c => c ≠ '"' ∧ c ≠ '\\' ∧ 0x20 ≤ c.toNat) = true) :
    Literal ('"' :: (s.toList ++ ['"'])) s :=
  ⟨.of_plain h⟩

theorem body_escapedType : Body "t\\u0079pe".toList "type".toList :=
  .plain (by decide) (by decide) (by decide) <|
    .code (n := 0x79) (hexNumber?_eq_some_iff.1 rfl) (by decide) (.of_plain rfl)

theorem spells_version : Spells (.list ["\"1.0\"".toList]) "[\"1.0\"]".toList := by
  have hlist := Spells.filledList <|
    .lastElement blanks_nil (literal_of_plain "1.0" rfl).spells blanks_nil
  exact hlist

theorem spells_unknown : Spells .value "[-1.5e2,\x7b\x7d]".toList := by
  have hdigits {d : Char} (hd : d.isDigit = true) : Digits [d] :=
    ⟨List.cons_ne_nil d [], List.forall_mem_singleton.2 hd⟩
  have hnumber : Numeral "-1.5e2".toList :=
    .minus (w := ['1']) (f := ['.', '5']) (e := ['e', '2'])
      (.other rfl (by decide) (List.forall_mem_nil _)) (.some (hdigits rfl))
      (.some (.inl rfl) (.inl rfl) (hdigits rfl))
  have hlist := Spells.filledList <| .element blanks_nil (.number hnumber) blanks_nil <|
    .lastElement blanks_nil (.object (.emptyObject blanks_nil)) blanks_nil
  exact .list hlist

theorem holds_mixedText : Holds mixedText (.object mixedMembers) := by
  have hblank : Blanks [' '] ∧ Blanks ['\n'] := by simp [Blanks, isBlank]
  have hkey {k : List Char} (h : (k.all fun c => c ≠ '"' ∧ c ≠ '\\' ∧ 0x20 ≤ c.toNat) = true) :
      Spelled k := (Body.of_plain h).spelled
  have hobject := Spells.filledObject <|
    .member hblank.1 (hkey (k := "endpoint".toList) rfl) blanks_nil blanks_nil
      (literal_of_plain "/e" rfl).spells hblank.1 <|
    .member blanks_nil (hkey (k := "x".toList) rfl) blanks_nil blanks_nil spells_unknown
      blanks_nil <|
    .member blanks_nil body_escapedType.spelled blanks_nil blanks_nil
      (literal_of_plain "T" rfl).spells blanks_nil <|
    .member blanks_nil (hkey (k := "name".toList) rfl) blanks_nil blanks_nil
      (literal_of_plain "N" rfl).spells blanks_nil <|
    .lastMember blanks_nil (hkey (k := "supportedVersions".toList) rfl) blanks_nil blanks_nil
      (.list spells_version) blanks_nil
  exact ⟨['\n'], _, [], hblank.2, hobject, blanks_nil, by decide +kernel⟩

theorem comprises_mixedMembers : Comprises (parts ⟨"T", "N", "/e", ["1.0"]⟩) mixedMembers := by
  refine ⟨[("t\\u0079pe".toList, "\"T\"".toList), ("name".toList, "\"N\"".toList),
      ("endpoint".toList, "\"/e\"".toList), ("supportedVersions".toList, "[\"1.0\"]".toList)],
    [("x".toList, "[-1.5e2,\x7b\x7d]".toList)], by decide +kernel, ?_, ?_⟩
  · exact .cons ⟨body_escapedType, literal_of_plain "T" rfl⟩ <|
      .cons ⟨Body.of_plain (w := "name".toList) rfl, literal_of_plain "N" rfl⟩ <|
        .cons ⟨Body.of_plain (w := "endpoint".toList) rfl, literal_of_plain "/e" rfl⟩ <|
          .cons ⟨Body.of_plain (w := "supportedVersions".toList) rfl, _, spells_version,
            .cons (literal_of_plain "1.0" rfl) .nil⟩ .nil
  · rw [List.forall_mem_singleton]
    exact ⟨"x", .of_plain (w := "x".toList) rfl, by decide⟩

/-- The object is read, the empty one is refused, and the list of the same values is read. -/
theorem decode_layout_of_mixed :
    decode mixedText = .ok ⟨"T", "N", "/e", ["1.0"]⟩ ∧
      (∃ refusal, decode "\x7b\x7d" = .error refusal) ∧
      decode "[\"T\",\"N\",\"/e\",[\"1.0\"]]" = .ok ⟨"T", "N", "/e", ["1.0"]⟩ := by
  have hempty : Holds "\x7b\x7d" (.object []) :=
    ⟨[], _, [], blanks_nil, .emptyObject blanks_nil, blanks_nil, rfl⟩
  have hlist : Holds "[\"T\",\"N\",\"/e\",[\"1.0\"]]" (.list _) :=
    ⟨[], _, [], blanks_nil, .filledList <|
      .element blanks_nil (literal_of_plain "T" rfl).spells blanks_nil <|
      .element blanks_nil (literal_of_plain "N" rfl).spells blanks_nil <|
      .element blanks_nil (literal_of_plain "/e" rfl).spells blanks_nil <|
      .lastElement blanks_nil (.list spells_version) blanks_nil, blanks_nil, by decide +kernel⟩
  obtain ⟨-, hobject, hlisted⟩ := decode_layout
  refine ⟨((hobject _ _ holds_mixedText).1 _).2 comprises_mixedMembers, ?_, ?_⟩
  · exact (hobject _ _ hempty).2 "type" (by decide) (.inl (List.forall_mem_nil _))
  · exact hlisted _ _ _ hlist
      ⟨literal_of_plain "T" rfl, literal_of_plain "N" rfl, literal_of_plain "/e" rfl, _,
        spells_version, .cons (literal_of_plain "1.0" rfl) .nil⟩

end RegistrationInfo

end DriverRegistration
