import DriverRegistration.Proofs.Wire.Varint
import DriverRegistration.Wire.Field

/-!
# Fields one after another

Bytes that hold whole fields change what was made of the fields before them in one way, whatever
stands behind them: they carry this change (`Carries`).  Bytes put one after another carry their
changes one after another (`Carries.append`), so that it is enough to say what single fields carry.
Fields of unknown numbers carry no change at all (`carries_unknown`).
-/

namespace DriverRegistration.Wire

open Text

/-! ## Keys and values -/

theorem number_append {bytes : List UInt8} {n : Nat} (h : Varint bytes n) (rest : List UInt8) :
    number (bytes ++ rest) = .ok (n, rest) := by
  have hread : readVarint? (bytes ++ rest) = some (n, rest) :=
    readVarint?_eq_some_iff.2 ⟨bytes, rfl, h⟩
  simp only [number, hread]

/-- Bytes that write a key whose field has a number that fields can have. -/
structure KeyOf (bytes : List UInt8) (k : Key) : Prop where
  varint : Varint bytes (k.tag * 8 + k.wireType.number)
  one_le : 1 ≤ k.tag
  lt : k.tag < 2 ^ 29

theorem number_lt (w : WireType) : w.number < 8 := by cases w <;> decide

theorem keyOf_keyBytes {k : Key} (hone : 1 ≤ k.tag) (hlt : k.tag < 2 ^ 29) :
    KeyOf (keyBytes k) k := by
  have := number_lt k.wireType
  exact ⟨varint_varint (by omega), hone, hlt⟩

theorem KeyOf.ne_nil {bytes : List UInt8} {k : Key} (h : KeyOf bytes k) : bytes ≠ [] :=
  List.ne_nil_of_length_pos h.varint.numeral.length_pos

theorem key_append {bytes : List UInt8} {k : Key} (h : KeyOf bytes k) (rest : List UInt8) :
    key (bytes ++ rest) = .ok (k, rest) := by
  have hw := number_lt k.wireType
  have hone := h.one_le
  have hlt := h.lt
  have hmod : (k.tag * 8 + k.wireType.number) % 8 = k.wireType.number := by omega
  have hdiv : (k.tag * 8 + k.wireType.number) / 8 = k.tag := by omega
  have hlimit : ¬ keyLimit < k.tag * 8 + k.wireType.number := by
    rw [keyLimit]
    omega
  simp only [key, number_append h.varint, bind, Except.bind, if_neg hlimit, hmod,
    WireType.ofNumber?_number, hdiv, if_neg (Nat.ne_of_gt hone)]

theorem dropExactly_append {n : Nat} {bytes : List UInt8} (h : bytes.length = n)
    (rest : List UInt8) : dropExactly n (bytes ++ rest) = .ok rest := by
  have hlength : ¬ (bytes ++ rest).length < n := by
    rw [List.length_append]
    omega
  rw [dropExactly, if_neg hlength, ← h, List.drop_left]

theorem textValue_append {s : String} (hs : (utf8 s).length < 2 ^ 64) (rest : List UInt8) :
    textValue .delimited (delimited (utf8 s) ++ rest) = .ok (s, rest) := by
  simp only [textValue, expect, delimited, List.append_assoc, number_append (varint_varint hs),
    dropExactly_append rfl, bind, Except.bind, if_true, List.take_left, ofUtf8?_utf8]

/-- What the values of the four kinds that are no groups look like. -/
inductive Payload : WireType → List UInt8 → Prop
  | varint {bytes : List UInt8} {n : Nat} (h : Varint bytes n) : Payload .varint bytes
  | bits64 {bytes : List UInt8} (h : bytes.length = 8) : Payload .bits64 bytes
  | delimited {size content : List UInt8} (h : Varint size content.length) :
      Payload .delimited (size ++ content)
  | bits32 {bytes : List UInt8} (h : bytes.length = 4) : Payload .bits32 bytes

/-- Such a value is passed over, whatever it holds and whatever stands behind it. -/
theorem skipValue_append {k : Key} {payload : List UInt8} (h : Payload k.wireType payload)
    (depth : Nat) (rest : List UInt8) : skipValue depth k (payload ++ rest) = .ok rest := by
  obtain ⟨tag, wireType⟩ := k
  cases h with
  | varint h =>
    simp only [skipValue, skipPlain, number_append h, bind, Except.bind, pure, Except.pure]
  | bits64 h => simp only [skipValue, skipPlain, dropExactly_append h]
  | delimited h =>
    simp only [skipValue, skipPlain, List.append_assoc, number_append h, dropExactly_append rfl,
      bind, Except.bind]
  | bits32 h => simp only [skipValue, skipPlain, dropExactly_append h]

/-! ## What bytes carry -/

section Carries

variable {σ ε : Type} {refuse : Cause → ε} {step : Key → σ → List UInt8 → Except ε (σ × List UInt8)}

/-- Bytes that hold whole fields, which make one change: the loop comes to what stands behind them,
with no more steps than they have bytes. -/
def Carries (refuse : Cause → ε) (step : Key → σ → List UInt8 → Except ε (σ × List UInt8))
    (bytes : List UInt8) (change : σ → σ) : Prop :=
  ∃ steps ≤ bytes.length, ∀ (left fuel : Nat) (s : σ) (rest : List UInt8), left ≤ rest.length →
    fieldsDownTo left refuse step (steps + fuel) s (bytes ++ rest) =
      fieldsDownTo left refuse step fuel (change s) rest

theorem carries_nil : Carries refuse step [] id :=
  ⟨0, Nat.le_refl 0, fun left fuel s rest _ => by rw [Nat.zero_add, List.nil_append, id]⟩

theorem Carries.append {bytes more : List UInt8} {change next : σ → σ}
    (h : Carries refuse step bytes change) (hmore : Carries refuse step more next) :
    Carries refuse step (bytes ++ more) (next ∘ change) := by
  obtain ⟨n, hn, hread⟩ := h
  obtain ⟨m, hm, hreadMore⟩ := hmore
  refine ⟨n + m, by rw [List.length_append]; omega, fun left fuel s rest hleft => ?_⟩
  have hleft' : left ≤ (more ++ rest).length := by
    rw [List.length_append]
    omega
  rw [Nat.add_assoc, List.append_assoc, hread left (m + fuel) s _ hleft',
    hreadMore left fuel _ rest hleft, Function.comp]

/-- A field carries what a step makes of it. -/
theorem carries_field {keyBytes payload : List UInt8} {k : Key} {change : σ → σ}
    (hkey : KeyOf keyBytes k)
    (hstep : ∀ s rest, step k s (payload ++ rest) = .ok (change s, rest)) :
    Carries refuse step (keyBytes ++ payload) change := by
  have hpos : 0 < keyBytes.length := List.length_pos_iff.2 hkey.ne_nil
  refine ⟨1, by rw [List.length_append]; omega, fun left fuel s rest hleft => ?_⟩
  have hmore : ¬ (keyBytes ++ payload ++ rest).length ≤ left := by
    rw [List.length_append, List.length_append]
    omega
  rw [Nat.add_comm, fieldsDownTo, if_neg hmore, List.append_assoc]
  simp only [key_append hkey, hstep]

/-- Bytes in a list, each of which carries a change. -/
theorem carries_flatMap {ι : Type} {bytes : ι → List UInt8} {change : ι → σ → σ} (xs : List ι)
    (h : ∀ x ∈ xs, Carries refuse step (bytes x) (change x)) :
    Carries refuse step (xs.flatMap bytes) fun s => xs.foldl (fun s x => change x s) s := by
  induction xs with
  | nil => exact carries_nil
  | cons x xs ih =>
    rw [List.flatMap_cons]
    exact (h x List.mem_cons_self).append (ih fun y hy => h y (List.mem_cons_of_mem _ hy))

/-- Bytes are read up to what is left, and make the change that they carry. -/
theorem Carries.read {bytes : List UInt8} {change : σ → σ} (h : Carries refuse step bytes change)
    (rest : List UInt8) {fuel : Nat} (hfuel : bytes.length ≤ fuel) (s : σ) :
    fieldsDownTo rest.length refuse step fuel s (bytes ++ rest) = .ok (change s, rest) := by
  obtain ⟨n, hn, hread⟩ := h
  obtain ⟨fuel, rfl⟩ := Nat.exists_eq_add_of_le (Nat.le_trans hn hfuel)
  rw [hread rest.length fuel s rest (Nat.le_refl _)]
  cases fuel with
  | zero => rfl
  | succ fuel => rw [fieldsDownTo, if_pos (Nat.le_refl _)]

/-! ### Texts -/

/-- The later one of two texts in the same field; one that is left out does not count. -/
def later (s t : String) : String := if t = "" then s else t

@[simp] theorem later_empty (s : String) : later s "" = s := if_pos rfl

@[simp] theorem empty_later (s : String) : later "" s = s := by
  unfold later
  split
  · next h => rw [h]
  · rfl

/-- A field that holds a text puts it in its place. -/
theorem carries_delimitedField {tag : Nat} {s : String} {change : σ → σ} (hone : 1 ≤ tag)
    (htag : tag < 2 ^ 29) (hs : (utf8 s).length < 2 ^ 64)
    (hstep : ∀ a bytes rest, textValue .delimited bytes = .ok (s, rest) →
      step ⟨tag, .delimited⟩ a bytes = .ok (change a, rest)) :
    Carries refuse step (delimitedField tag (utf8 s)) change :=
  carries_field (keyOf_keyBytes hone htag) fun a rest => hstep a _ rest (textValue_append hs rest)

/-- A field that holds a text puts it over what is in its place, and nothing if it is left out. -/
theorem carries_textField {tag : Nat} {s : String} (get : σ → String) (put : σ → String → σ)
    (hput : ∀ a, put a (get a) = a) (hone : 1 ≤ tag) (htag : tag < 2 ^ 29)
    (hs : (utf8 s).length < 2 ^ 64)
    (hstep : ∀ a bytes rest, textValue .delimited bytes = .ok (s, rest) →
      step ⟨tag, .delimited⟩ a bytes = .ok (put a s, rest)) :
    Carries refuse step (textField tag s) fun a => put a (later (get a) s) := by
  unfold textField
  split
  · next h =>
    have hsame : (fun a => put a (later (get a) s)) = id := by
      funext a
      rw [h, later_empty, hput, id]
    rw [hsame]
    exact carries_nil
  · next h =>
    have hplaced : (fun a => put a (later (get a) s)) = fun a => put a s := by
      funext a
      rw [later, if_neg h]
    rw [hplaced]
    exact carries_delimitedField hone htag hs hstep

end Carries

/-! ## Entries of a map -/

/-- An entry is read, whatever stands behind it. -/
theorem entryValue_append {e : String × String}
    (he : (textField 1 e.1 ++ textField 2 e.2).length < 2 ^ 64) (hkey : (utf8 e.1).length < 2 ^ 64)
    (hvalue : (utf8 e.2).length < 2 ^ 64) (rest : List UInt8) :
    entryValue (delimited (textField 1 e.1 ++ textField 2 e.2) ++ rest) = .ok (e, rest) := by
  have hfirst : Carries id entryField (textField 1 e.1)
      fun a => (later a.1 e.1, a.2) :=
    carries_textField Prod.fst (fun a s => (s, a.2)) (fun _ => rfl) (by decide)
      (by decide) hkey fun a bytes rest h => by
        simp only [entryField, if_true, h, bind, Except.bind, pure, Except.pure]
  have hsecond : Carries id entryField (textField 2 e.2)
      fun a => (a.1, later a.2 e.2) :=
    carries_textField Prod.snd (fun a s => (a.1, s)) (fun _ => rfl) (by decide)
      (by decide) hvalue fun a bytes rest h => by
        simp only [entryField, if_neg (show ¬ (2 = 1) by decide), if_true, h, bind, Except.bind,
          pure, Except.pure]
  generalize hcontent : textField 1 e.1 ++ textField 2 e.2 = content at he
  have hlength : content.length ≤ (content ++ rest).length := by simp
  have hread := (hcontent ▸ hfirst.append hsecond).read rest hlength ("", "")
  have henough : ¬ (content ++ rest).length < content.length := by simp
  have hleft : (content ++ rest).length - content.length = rest.length := by simp
  simp only [entryValue, delimited, List.append_assoc, number_append (varint_varint he), bind,
    Except.bind, if_neg henough, hleft, hread, Function.comp, empty_later, if_true]

/-! ## Unknown fields -/

/-- A field whose number is none of those that are known, and whose value is no group. -/
inductive UnknownField (known : List Nat) : List UInt8 → Prop
  | mk {keyBytes payload : List UInt8} {k : Key} (hkey : KeyOf keyBytes k) (hknown : k.tag ∉ known)
      (hvalue : Payload k.wireType payload) : UnknownField known (keyBytes ++ payload)

/-- Unknown fields, one after another. -/
inductive Unknown (known : List Nat) : List UInt8 → Prop
  | nil : Unknown known []
  | cons {field fields : List UInt8} (h : UnknownField known field) (hs : Unknown known fields) :
      Unknown known (field ++ fields)

/-- Unknown fields change nothing, if every one of them is passed over. -/
theorem carries_unknown {σ ε : Type} {refuse : Cause → ε}
    {step : Key → σ → List UInt8 → Except ε (σ × List UInt8)} {known : List Nat} (depth : Nat)
    (hstep : ∀ k s bytes rest, k.tag ∉ known → skipValue depth k bytes = .ok rest →
      step k s bytes = .ok (s, rest))
    {bytes : List UInt8} (h : Unknown known bytes) : Carries refuse step bytes id := by
  induction h with
  | nil => exact carries_nil
  | cons hfield _ ih =>
    obtain ⟨hkey, hknown, hvalue⟩ := hfield
    have hcarries : Carries refuse step _ id := carries_field hkey fun s rest =>
      hstep _ s _ rest hknown (skipValue_append hvalue depth rest)
    exact hcarries.append ih

end DriverRegistration.Wire
