import DriverRegistration.Json.Number
import DriverRegistration.Json.Writer

/-!
# JSON values

A value as data: an object lists its members, each key once when it is built by `set`.
`Value.write` writes a value without blanks.
-/

namespace DriverRegistration.Json

/-- A JSON value. -/
inductive Value where
  | null
  | flag (value : Bool)
  | number (value : Number)
  | text (value : String)
  | list (items : List Value)
  | object (members : List (String × Value))
  deriving Repr, Inhabited

/-- Members with a key set: over the member of that key, else at the end. -/
def setMember {α : Type} (k : String) (v : α) : List (String × α) → List (String × α)
  | [] => [(k, v)]
  | m :: ms => if m.1 = k then (k, v) :: ms else m :: setMember k v ms

theorem lookup_setMember {α : Type} (k j : String) (v : α) (ms : List (String × α)) :
    (setMember k v ms).lookup j = if j = k then some v else ms.lookup j := by
  induction ms with
  | nil => by_cases h : j = k <;> simp [setMember, List.lookup_cons, h, beq_eq_false_iff_ne.2]
  | cons m ms ih =>
    obtain ⟨mk, mv⟩ := m
    by_cases hk : mk = k
    · subst hk
      by_cases h : j = mk <;> simp [setMember, List.lookup_cons, h, beq_eq_false_iff_ne.2]
    · by_cases h : j = mk
      · subst h
        simp [setMember, hk]
      · simp [setMember, hk, List.lookup_cons, beq_eq_false_iff_ne.2 h, ih]

namespace Value

/-- The member of a key, where the value is an object that has one. -/
def get? (v : Value) (k : String) : Option Value :=
  match v with
  | object ms => ms.lookup k
  | _ => none

/-- The text of a value that is one. -/
def text? : Value → Option String
  | text s => some s
  | _ => none

/-- The map of the members that are texts, where the value is an object. -/
def textMap? : Value → Option (TextMap String)
  | object ms => some (.ofList (ms.filterMap fun m => m.2.text?.map (m.1, ·)))
  | _ => none

/-- A text that may be missing. -/
def ofText? : Option String → Value
  | some s => text s
  | none => null

/-- A map of texts as an object. -/
def ofTextMap (m : TextMap String) : Value := object (m.entries.map fun e => (e.1, text e.2))

/-- A map that may be missing. -/
def ofTextMap? : Option (TextMap String) → Value
  | some m => ofTextMap m
  | none => null

/-! ## Writing -/

/-- A number as it is written. -/
def writtenNumber : Number → List Char
  | .integer n => (toString n).toList
  | .float x => (Binary64.text numberLayout x).toList

mutual

/-- A value as it is written. -/
def written : Value → List Char
  | null => "null".toList
  | flag b => (if b then "true" else "false").toList
  | number n => writtenNumber n
  | text s => writtenText s
  | list vs => writtenList (writtenItems vs)
  | object ms => writtenObject (writtenMembers ms)

/-- Each value of a list as it is written. -/
def writtenItems : List Value → List (List Char)
  | [] => []
  | v :: vs => written v :: writtenItems vs

/-- The value of each member as it is written. -/
def writtenMembers : List (String × Value) → List (String × List Char)
  | [] => []
  | (k, v) :: ms => (k, written v) :: writtenMembers ms

end

/-- The document of a value. -/
def write (v : Value) : String := String.ofList v.written

end Value

end DriverRegistration.Json
