import DriverRegistration.Json.Value
import DriverRegistration.Yaml.Value

/-!
# Reading values

A reader turns a value into what a program needs, or says why it cannot.  Tags are passed over, and
nothing counts as an empty list and as a record without members.  The members of a record are read
in their order, those of unknown names are passed over, and missing ones show only after all others.
-/

namespace DriverRegistration.Yaml

/-- Why a value is not what a program needs. -/
inductive Mismatch where
  | wrongType (found : Value) (expected : String)
  | missingMember (name : String)
  | repeatedMember (name : String)
  | unknownChoice (found : String) (choices : List String)

/-- The text of a mismatch. -/
def Mismatch.message : Mismatch → String
  | wrongType found expected => "invalid type: " ++ found.name ++ ", expected " ++ expected
  | missingMember name => "missing field `" ++ name ++ "`"
  | repeatedMember name => "duplicate field `" ++ name ++ "`"
  | unknownChoice found choices =>
    "unknown variant `" ++ found ++ "`, expected one of " ++
      ", ".intercalate (choices.map fun c => "`" ++ c ++ "`")

/-- A reader of values. -/
abbrev Reader (α : Type) := Value → Except Mismatch α

namespace Reader

/-! ## Scalars -/

/-- A text. -/
def text (expected : String) : Reader String := fun v =>
  match v.untagged with
  | .text s => .ok s
  | v => .error (.wrongType v expected)

/-- A text. -/
def string : Reader String := text "a string"

/-- A truth value. -/
def flag : Reader Bool := fun v =>
  match v.untagged with
  | .flag b => .ok b
  | v => .error (.wrongType v "a boolean")

/-- Nothing. -/
def nothing : Reader Unit := fun v =>
  match v.untagged with
  | .null => .ok ()
  | v => .error (.wrongType v "unit")

/-- One of some names, as a text or as a tag without a value. -/
def choice (names : List String) : Reader String := fun v =>
  let known (s : String) : Except Mismatch String :=
    if names.contains s then .ok s else .error (.unknownChoice s names)
  match v with
  | .text s => known s
  | .tagged t v => do
    let s ← known t
    nothing v
    return s
  | v => .error (.wrongType v "a Value::Tagged enum")

/-- What may be missing. -/
def optional {α : Type} (r : Reader α) : Reader (Option α)
  | .null => .ok none
  | v => (r v).map some

/-! ## Collections -/

/-- A list. -/
def list {α : Type} (r : Reader α) : Reader (List α) := fun v =>
  match v.untagged with
  | .list vs => vs.mapM r
  | .null => .ok []
  | v => .error (.wrongType v "a sequence")

/-- The members of a mapping. -/
def members (expected : String) : Reader (List (Value × Value)) := fun v =>
  match v.untagged with
  | .mapping ms => .ok ms
  | .null => .ok []
  | v => .error (.wrongType v expected)

/-- Texts under texts, of which the last one of a key counts. -/
def dictionary : Reader (List (String × String)) := fun v => do
  let ms ← members "a map" v
  ms.foldlM (fun read (k, v) => do
    let k ← string k
    return Json.setMember k (← string v) read) []

/-- Judge any value that can be told in JSON.  The fuel bounds the depth. -/
def document : Nat → Reader Unit
  | 0, _ => .ok ()
  | fuel + 1, v =>
    match v with
    | .list vs => vs.forM (document fuel)
    | .mapping ms =>
      ms.zipIdx.forM fun ((k, v), i) => do
        let _ ← text (if i = 0 then "a string key" else "a string") k
        document fuel v
    | .tagged t v => .error (.wrongType (.tagged t v) "any valid JSON value")
    | _ => .ok ()

/-! ## Records -/

/-- The members that a record knows, with a check of each. -/
abbrev Checks := List (String × Reader Unit)

/-- A member that is there must be readable. -/
def check {α : Type} (name : String) (r : Reader α) : String × Reader Unit :=
  (name, fun v => (r v).map fun _ => ())

/-- The known members of a record, all of which are readable. -/
abbrev Members := List (String × Value)

/-- A record of a name. -/
def record (name : String) (checks : Checks) : Reader Members := fun v => do
  let ms ← members ("struct " ++ name) v
  ms.foldlM (fun read (k, v) => do
    let k ← text "field identifier" k
    match checks.lookup k with
    | none => return read
    | some check =>
      if (read.lookup k).isSome then .error (.repeatedMember k)
      else
        check v
        return read ++ [(k, v)]) []

end Reader

namespace Reader.Members

/-- A member that must be there. -/
def get {α : Type} (ms : Members) (name : String) (r : Reader α) : Except Mismatch α :=
  match ms.lookup name with
  | some v => r v
  | none => .error (.missingMember name)

/-- A member that may be missing. -/
def get? {α : Type} (ms : Members) (name : String) (r : Reader α) : Except Mismatch (Option α) :=
  match ms.lookup name with
  | some v => optional r v
  | none => .ok none

/-- A list that may be missing. -/
def listOf {α : Type} (ms : Members) (name : String) (r : Reader α) : Except Mismatch (List α) :=
  return ((← ms.get? name (list r)).getD [])

end Reader.Members

end DriverRegistration.Yaml
