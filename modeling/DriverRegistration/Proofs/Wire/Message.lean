import DriverRegistration.Proofs.Registration.Failures
import DriverRegistration.Proofs.TextMap
import DriverRegistration.Proofs.Wire.Field
import DriverRegistration.Wire.Message

/-!
# Messages on the wire

The bytes of a message carry its fields over those of the messages before it: texts and flags that
are not left out replace the earlier ones, lists grow, and entries of maps are inserted.  Laid over
the empty message, they give the message itself (`decode_encode_messages`).  Messages in a row, with
unknown fields before, between and behind them, give the later ones laid over the earlier ones
(`decode_messages_in_row`).

A length has 64 bits on the wire, so messages are taken to have fewer than `2 ^ 64` bytes (`Fits`).
-/

namespace DriverRegistration.Wire

open Text

/-- Messages whose lengths have 64 bits. -/
def Fits {α : Type} [Message α] (a : α) : Prop := (Message.encode a).length < 2 ^ 64

instance {α : Type} [Message α] (a : α) : Decidable (Fits a) := inferInstanceAs (Decidable (_ < _))

theorem length_utf8_le_delimitedField (tag : Nat) (s : String) :
    (utf8 s).length ≤ (delimitedField tag (utf8 s)).length := by
  simp only [delimitedField, delimited, List.length_append]
  omega

theorem length_utf8_le_textField (tag : Nat) (s : String) :
    (utf8 s).length ≤ (textField tag s).length := by
  unfold textField
  split
  · next h =>
    rw [h]
    exact Nat.le_refl 0
  · exact length_utf8_le_delimitedField tag s

theorem length_le_flatMap {ι : Type} (bytes : ι → List UInt8) {x : ι} {xs : List ι} (h : x ∈ xs) :
    (bytes x).length ≤ (xs.flatMap bytes).length :=
  (List.sublist_flatten_of_mem (List.mem_map_of_mem h)).length_le

section

variable {α : Type} [Message α]

/-- What bytes carry into a message of some kind. -/
abbrev CarriesInto (bytes : List UInt8) (change : α → α) : Prop :=
  Carries (fun cause => (⟨none, cause⟩ : Fault)) Message.mergeField bytes change

theorem decode_of_carries {bytes : List UInt8} {change : α → α} (h : CarriesInto bytes change) :
    decode bytes = .ok (change Message.empty) := by
  have hread := h.read [] (Nat.le_refl _) Message.empty
  rw [List.append_nil, List.length_nil] at hread
  simp only [decode, merge, hread, bind, Except.bind, pure, Except.pure]

omit [Message α] in
theorem inField_of_ok {β : Type} {field : String} {place : β → α}
    {read : Except Cause (β × List UInt8)} {b : β} {rest : List UInt8} (h : read = .ok (b, rest)) :
    inField field place read = .ok (place b, rest) := by
  rw [h]
  rfl

/-- Which fields a kind of message knows. -/
def Knows (α : Type) [Message α] (known : List Nat) : Prop :=
  ∀ (k : Key) (a : α) (bytes : List UInt8), k.tag ∉ known →
    Message.mergeField k a bytes = passOver k a bytes

theorem carriesInto_unknown {known : List Nat} (hknown : Knows α known) {bytes : List UInt8}
    (h : Unknown known bytes) : CarriesInto bytes (id : α → α) := by
  refine carries_unknown depthLimit (fun k a bytes rest htag hskip => ?_) h
  rw [hknown k a bytes htag, passOver, hskip]

/-- The bytes of two messages, in this order, hold a third one, whatever unknown fields stand
before, between and behind them. -/
def Unite (known : List Nat) (a b c : α) : Prop :=
  ∀ u v w : List UInt8, Unknown known u → Unknown known v → Unknown known w →
    decode (u ++ (Message.encode a ++ (v ++ (Message.encode b ++ w)))) = .ok c

theorem unite_of_carries {known : List Nat} (hknown : Knows α known) {a b : α} {change next : α → α}
    (ha : CarriesInto (Message.encode a) change) (hb : CarriesInto (Message.encode b) next) :
    Unite known a b (next (change Message.empty)) := by
  intro u v w hu hv hw
  have hbehind := hb.append (carriesInto_unknown hknown hw)
  have hrow := (carriesInto_unknown hknown hu).append
    (ha.append ((carriesInto_unknown hknown hv).append hbehind))
  exact decode_of_carries hrow

/-- A field that holds a text lays it over what is in its place. -/
theorem carriesInto_text {tag : Nat} {s : String} (get : α → String) (put : α → String → α)
    {field : String} (hfits : (textField tag s).length < 2 ^ 64) (hone : 1 ≤ tag)
    (htag : tag < 2 ^ 29) (hput : ∀ a, put a (get a) = a)
    (hplace : ∀ a bytes, Message.mergeField ⟨tag, .delimited⟩ a bytes =
      inField field (put a) (textValue .delimited bytes)) :
    CarriesInto (textField tag s) fun a => put a (later (get a) s) :=
  carries_textField get put hput hone htag
    (Nat.lt_of_le_of_lt (length_utf8_le_textField tag s) hfits)
    fun a bytes _ h => (hplace a bytes).trans (inField_of_ok h)

/-- Fields that each add to what is in one place add to it one after another. -/
theorem carriesInto_each {ι β : Type} {bytes : ι → List UInt8} (get : α → β) (put : α → β → α)
    (add : β → ι → β) {xs : List ι} (hput : ∀ a, put a (get a) = a)
    (hget : ∀ a b, get (put a b) = b) (hagain : ∀ a b c, put (put a b) c = put a c)
    (h : ∀ x ∈ xs, CarriesInto (bytes x) fun a => put a (add (get a) x)) :
    CarriesInto (xs.flatMap bytes) fun a => put a (xs.foldl add (get a)) := by
  have hfold : ∀ a,
      xs.foldl (fun a x => put a (add (get a) x)) a = put a (xs.foldl add (get a)) := by
    intro a
    clear h
    induction xs generalizing a with
    | nil => exact (hput a).symm
    | cons x xs ih => rw [List.foldl_cons, List.foldl_cons, ih, hget, hagain]
  have heach := carries_flatMap xs h
  simp only [hfold] at heach
  exact heach

end

/-! ## What each kind of message carries -/

/-- What a plugin says about itself, over what it said before. -/
theorem carriesInto_plugin {p : PluginInfo} (h : Fits p) :
    CarriesInto (Message.encode p) fun a : PluginInfo =>
      ⟨later a.pluginType p.pluginType, later a.name p.name, later a.endpoint p.endpoint,
        a.supportedVersions ++ p.supportedVersions⟩ := by
  simp only [Fits, Message.encode, List.length_append] at h
  have htype : CarriesInto (textField 1 p.pluginType) _ :=
    carriesInto_text PluginInfo.pluginType (fun a s => { a with pluginType := s }) (by omega)
      (by decide) (by decide) (fun _ => rfl) fun _ _ => rfl
  have hname : CarriesInto (textField 2 p.name) _ :=
    carriesInto_text PluginInfo.name (fun a s => { a with name := s }) (by omega)
      (by decide) (by decide) (fun _ => rfl) fun _ _ => rfl
  have hendpoint : CarriesInto (textField 3 p.endpoint) _ :=
    carriesInto_text PluginInfo.endpoint (fun a s => { a with endpoint := s }) (by omega)
      (by decide) (by decide) (fun _ => rfl) fun _ _ => rfl
  have hversions : CarriesInto (textFields 4 p.supportedVersions) fun a : PluginInfo =>
      { a with supportedVersions :=
          p.supportedVersions.foldl (fun vs s => vs ++ [s]) a.supportedVersions } := by
    refine carriesInto_each PluginInfo.supportedVersions
      (fun a vs => { a with supportedVersions := vs })
      (fun vs s => vs ++ [s]) (fun _ => rfl) (fun _ _ => rfl) (fun _ _ _ => rfl) fun s hs => ?_
    have hlength := length_utf8_le_delimitedField 4 s
    have htotal := length_le_flatMap (fun s => delimitedField 4 (utf8 s)) hs
    refine carries_delimitedField (by decide) (by decide) ?_ fun a bytes _ h => inField_of_ok h
    unfold textFields at h
    omega
  have hfold (vs : List String) :
      p.supportedVersions.foldl (fun vs s => vs ++ [s]) vs = vs ++ p.supportedVersions := by
    rw [List.foldl_append_eq_append, ← List.flatMap_def, List.flatMap_singleton']
  simp only [hfold] at hversions
  exact ((htype.append hname).append hendpoint).append hversions

/-- A report of the plugin watcher, over those before it. -/
theorem carriesInto_status {m : StatusMessage} (h : Fits m) :
    CarriesInto (Message.encode m) fun a : StatusMessage =>
      ⟨a.registered || m.registered, later a.error m.error⟩ := by
  simp only [Fits, Message.encode, List.length_append] at h
  have hflag : CarriesInto (flagField 1 m.registered)
      fun a : StatusMessage => { a with registered := a.registered || m.registered } := by
    unfold flagField
    cases m.registered with
    | false =>
      simp only [Bool.or_false]
      exact carries_nil
    | true =>
      simp only [Bool.or_true]
      refine carries_field (keyOf_keyBytes (by decide) (by decide)) fun a rest => ?_
      have hone : number (varint 1 ++ rest) = .ok (1, rest) :=
        number_append (varint_varint (by decide)) rest
      refine inField_of_ok ?_
      simp only [flagValue, expect, hone, bind, Except.bind, if_true]
      rfl
  have herror : CarriesInto (textField 2 m.error) _ :=
    carriesInto_text StatusMessage.error (fun a s => { a with error := s }) (by omega)
      (by decide) (by decide) (fun _ => rfl) fun _ _ => rfl
  exact hflag.append herror

/-- What a driver says about itself, over what it said before. -/
theorem carriesInto_description {d : DriverDescription} (h : Fits d) :
    CarriesInto (Message.encode d) fun a : DriverDescription =>
      ⟨later a.name d.name, later a.vendorVersion d.vendorVersion,
        a.manifest.overlaid d.manifest⟩ := by
  simp only [Fits, Message.encode, List.length_append] at h
  have hname : CarriesInto (textField 1 d.name) _ :=
    carriesInto_text DriverDescription.name (fun a s => { a with name := s }) (by omega)
      (by decide) (by decide) (fun _ => rfl) fun _ _ => rfl
  have hversion : CarriesInto (textField 2 d.vendorVersion) _ :=
    carriesInto_text DriverDescription.vendorVersion (fun a s => { a with vendorVersion := s })
      (by omega) (by decide) (by decide) (fun _ => rfl) fun _ _ => rfl
  have hmanifest : CarriesInto (d.manifest.entries.flatMap (entryBytes 3))
      fun a : DriverDescription => { a with manifest := a.manifest.overlaid d.manifest } := by
    refine carriesInto_each DriverDescription.manifest (fun a m => { a with manifest := m })
      (fun m (e : String × String) => m.insert e.1 e.2) (fun _ => rfl) (fun _ _ => rfl)
      (fun _ _ _ => rfl) fun e he => ?_
    have hentry := length_le_flatMap (entryBytes 3) he
    have hkey := length_utf8_le_textField 1 e.1
    have hvalue := length_utf8_le_textField 2 e.2
    simp only [entryBytes, delimitedField, delimited, List.length_append] at hentry
    refine carries_field (keyOf_keyBytes (by decide) (by decide)) fun a rest => inField_of_ok ?_
    refine entryValue_append ?_ (by omega) (by omega) rest
    rw [List.length_append]
    omega
  exact (hname.append hversion).append hmanifest

/-- The node id that a driver gives, over the one that it gave before. -/
theorem carriesInto_nodeId {n : DriverNodeId} (h : Fits n) :
    CarriesInto (Message.encode n) fun a : DriverNodeId => ⟨later a.nodeId n.nodeId⟩ :=
  carriesInto_text DriverNodeId.nodeId (fun a s => { a with nodeId := s }) h (by decide) (by decide)
    (fun _ => rfl) fun _ _ => rfl

theorem carriesInto_request (r : InfoRequest) :
    CarriesInto (Message.encode r) (id : InfoRequest → _) :=
  carries_nil

/-! ## Which fields each kind of message knows -/

theorem knows_plugin : Knows PluginInfo [1, 2, 3, 4] := by
  intro k p bytes h
  simp only [List.mem_cons, List.not_mem_nil, or_false, not_or] at h
  obtain ⟨h1, h2, h3, h4⟩ := h
  simp only [Message.mergeField]

theorem knows_status : Knows StatusMessage [1, 2] := by
  intro k m bytes h
  simp only [List.mem_cons, List.not_mem_nil, or_false, not_or] at h
  obtain ⟨h1, h2⟩ := h
  simp only [Message.mergeField]

theorem knows_description : Knows DriverDescription [1, 2, 3] := by
  intro k d bytes h
  simp only [List.mem_cons, List.not_mem_nil, or_false, not_or] at h
  obtain ⟨h1, h2, h3⟩ := h
  simp only [Message.mergeField]

theorem knows_nodeId : Knows DriverNodeId [1] := by
  intro k n bytes h
  rw [List.mem_singleton] at h
  simp only [Message.mergeField]

theorem knows_request : Knows InfoRequest [] := fun _ _ _ _ => rfl

/-! ## Messages and their bytes -/

section RoundTrip

variable {α : Type} [Message α]

theorem decode_encode_of_carries {a : α} {change : α → α}
    (h : CarriesInto (Message.encode a) change) (hempty : change Message.empty = a) :
    decode (Message.encode a) = .ok a :=
  (decode_of_carries h).trans (congrArg Except.ok hempty)

end RoundTrip

theorem decode_encode_plugin {p : PluginInfo} (h : Fits p) : decode (Message.encode p) = .ok p :=
  decode_encode_of_carries (carriesInto_plugin h) (by simp [Message.empty])

/-- What is decoded from the bytes of a message is the message, of whatever kind.  So a plugin
watcher that asks for the plugin, at any time, is told of what the service was built with. -/
theorem decode_encode_messages :
    (∀ p : PluginInfo, Fits p → decode (Message.encode p) = .ok p) ∧
    (∀ i : RegistrationInfo, Fits i.message →
      decode (Message.encode i.message) = .ok (⟨i.pluginType, i.name, i.endpoint, i.versions⟩ :
        PluginInfo)) ∧
    (∀ m : StatusMessage, Fits m → decode (Message.encode m) = .ok m) ∧
    (∀ d : DriverDescription, Fits d → decode (Message.encode d) = .ok d) ∧
    (∀ n : DriverNodeId, Fits n → decode (Message.encode n) = .ok n) ∧
    (∀ r : InfoRequest, decode (Message.encode r) = .ok r) ∧
    ∀ (info : RegistrationInfo) (capacity : Nat) (s : RegistrationService)
      (steps : List RegistrationService.Step),
      RegistrationService.new? info capacity = some s → Fits info.message →
        ∃ answer events, ((s.after steps).step .getInfo).1 = (.info answer, events) ∧
          decode (Message.encode answer) =
            .ok (⟨info.pluginType, info.name, info.endpoint, info.versions⟩ : PluginInfo) := by
  refine ⟨fun p h => decode_encode_plugin h, fun i h => decode_encode_plugin h, ?status,
    ?description, ?nodeId, fun _ => rfl, ?answer⟩
  case status =>
    intro m h
    exact decode_encode_of_carries (carriesInto_status h) (by simp [Message.empty])
  case description =>
    intro d h
    exact decode_encode_of_carries (carriesInto_description h) (by simp [Message.empty])
  case nodeId =>
    intro n h
    exact decode_encode_of_carries (carriesInto_nodeId h) (by simp [Message.empty])
  case answer =>
    intro info capacity s steps hnew h
    have hinfo : s.info = info := by
      unfold RegistrationService.new? at hnew
      split at hnew
      · cases hnew
      · rw [← Option.some.inj hnew]
    refine ⟨info.message, [], ?_, decode_encode_plugin h⟩
    rw [RegistrationService.step, (RegistrationService.info_after s steps).1, hinfo]

/-- What a plugin says that has no endpoint, and empty texts among its versions. -/
def gappyInfo : RegistrationInfo := .ofDriver "drivér" "" ["", "0.3.0", ""]

/-- What a driver says that leaves out its name, and has an empty entry. -/
def gappyDescription : DriverDescription := ⟨"", "1", .ofList [("", ""), ("zone", "b")]⟩

/-- A plugin watcher that asks after it has reported is told all versions, the empty ones
included. -/
theorem decode_encode_messages_of_gaps :
    Fits gappyInfo.message ∧ Fits gappyDescription ∧
      RegistrationService.new? gappyInfo 1 = some ⟨gappyInfo, 1, []⟩ ∧
      (∃ answer events,
        ((RegistrationService.after ⟨gappyInfo, 1, []⟩
          [.notify ⟨false, "taken"⟩]).step .getInfo).1 = (.info answer, events) ∧
        decode (Message.encode answer) =
          .ok (⟨"CSIPlugin", "drivér", "", ["", "0.3.0", ""]⟩ : PluginInfo)) ∧
      decode (Message.encode gappyDescription) = .ok gappyDescription := by
  have hinfo : Fits gappyInfo.message := by decide +kernel
  have hdescription : Fits gappyDescription := by decide +kernel
  obtain ⟨-, -, -, hsame, -, -, hanswer⟩ := decode_encode_messages
  exact ⟨hinfo, hdescription, rfl, hanswer gappyInfo 1 _ _ rfl hinfo, hsame _ hdescription⟩

/-! ## Messages in a row -/

/-- The bytes of two messages of one kind, whatever unknown fields stand around them, are decoded to
one message: the second one laid over the first one. -/
theorem decode_messages_in_row :
    (∀ p q : PluginInfo, Fits p → Fits q → Unite [1, 2, 3, 4] p q
      ⟨later p.pluginType q.pluginType, later p.name q.name, later p.endpoint q.endpoint,
        p.supportedVersions ++ q.supportedVersions⟩) ∧
    (∀ m m' : StatusMessage, Fits m → Fits m' → Unite [1, 2] m m'
      ⟨if m'.registered then m'.registered else m.registered, later m.error m'.error⟩) ∧
    (∀ d e : DriverDescription, Fits d → Fits e → ∃ manifest : TextMap String,
      (∀ k, manifest.get? k = (e.manifest.get? k).or (d.manifest.get? k)) ∧
      Unite [1, 2, 3] d e
        ⟨later d.name e.name, later d.vendorVersion e.vendorVersion, manifest⟩) ∧
    (∀ n n' : DriverNodeId, Fits n → Fits n' → Unite [1] n n' ⟨later n.nodeId n'.nodeId⟩) ∧
    ∀ r r' : InfoRequest, Unite [] r r' {} := by
  refine ⟨?plugin, ?status, ?description, ?nodeId, ?request⟩
  case plugin =>
    intro p q hp hq
    have hunite := unite_of_carries knows_plugin (carriesInto_plugin hp) (carriesInto_plugin hq)
    simpa only [Message.empty, empty_later, List.nil_append] using hunite
  case status =>
    intro m m' hm hm'
    have hunite := unite_of_carries knows_status (carriesInto_status hm) (carriesInto_status hm')
    have hflag : (if m'.registered then m'.registered else m.registered) =
        (m.registered || m'.registered) := by
      cases m.registered <;> cases m'.registered <;> rfl
    rw [hflag]
    simpa only [Message.empty, empty_later, Bool.false_or] using hunite
  case description =>
    intro d e hd he
    have hunite := unite_of_carries knows_description (carriesInto_description hd)
      (carriesInto_description he)
    refine ⟨d.manifest.overlaid e.manifest, d.manifest.get?_overlaid e.manifest, ?_⟩
    simpa only [Message.empty, empty_later, TextMap.empty_overlaid] using hunite
  case nodeId =>
    intro n n' hn hn'
    have hunite := unite_of_carries knows_nodeId (carriesInto_nodeId hn) (carriesInto_nodeId hn')
    simpa only [Message.empty, empty_later] using hunite
  case request =>
    intro r r'
    exact unite_of_carries knows_request (carriesInto_request r) (carriesInto_request r')

/-- What a driver says with one entry in its manifest, and with a name and no version. -/
def earlierDescription : DriverDescription :=
  ⟨"driver", "", .ofList [("arch", "arm"), ("zone", "a")]⟩

/-- A field of the largest number, which holds two bytes and gives their number in two bytes. -/
def farField : List UInt8 := keyBytes ⟨536870911, .delimited⟩ ++ ([130, 0] ++ [255, 255])

theorem unknown_farField : Unknown [1, 2, 3] farField := by
  have hsize : Varint [130, 0] [255, 255].length :=
    ⟨.more (by decide) (.last (by decide)), by decide, by decide⟩
  have hfield : UnknownField [1, 2, 3] farField :=
    .mk (keyOf_keyBytes (by decide) (by decide)) (by decide) (.delimited hsize)
  have h := Unknown.cons hfield .nil
  rwa [List.append_nil] at h

/-- The manifests of two descriptions with the same key, and a field of a newer driver twice. -/
theorem decode_messages_in_row_of_zones :
    Fits earlierDescription ∧ Fits gappyDescription ∧ Unknown [1, 2, 3] farField ∧
      ∃ manifest : TextMap String,
        manifest.get? "arch" = some "arm" ∧ manifest.get? "zone" = some "b" ∧
        decode (farField ++ (Message.encode earlierDescription ++
          (farField ++ (Message.encode gappyDescription ++ [])))) =
          .ok (⟨"driver", "1", manifest⟩ : DriverDescription) := by
  have hearlier : Fits earlierDescription := by decide +kernel
  have hlater : Fits gappyDescription := by decide +kernel
  obtain ⟨-, -, hrow, -⟩ := decode_messages_in_row
  obtain ⟨manifest, hget, hunite⟩ := hrow earlierDescription gappyDescription hearlier hlater
  refine ⟨hearlier, hlater, unknown_farField, manifest, ?_, ?_, ?_⟩
  · rw [hget]
    decide +kernel
  · rw [hget]
    decide +kernel
  · exact hunite farField farField [] unknown_farField unknown_farField .nil

end DriverRegistration.Wire
