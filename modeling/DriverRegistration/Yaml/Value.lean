import DriverRegistration.Binary64.Shortest
import DriverRegistration.Text.Quoted

/-!
# YAML values

A mapping lists its members, whose keys may be any values.  Two values are the `same` when no
mapping may have both as keys: members have no order, and what is not a number is the same as
itself.
-/

namespace DriverRegistration.Yaml

/-- A YAML value. -/
inductive Value where
  | null
  | flag (value : Bool)
  | integer (value : Int)
  | float (value : Binary64)
  | text (value : String)
  | list (items : List Value)
  | mapping (members : List (Value × Value))
  /-- A value with a tag of its own. -/
  | tagged (tag : String) (value : Value)
  deriving Repr, Inhabited

namespace Value

/-- Whether two numbers are the same. -/
def sameFloat (x y : Binary64) : Bool :=
  (x.isNaN && y.isNaN) || (!x.isNaN && !y.isNaN && x.rank = y.rank)

mutual

/-- Whether two values are the same. -/
def same : Value → Value → Bool
  | null, null => true
  | flag a, flag b => a = b
  | integer a, integer b => a = b
  | float a, float b => sameFloat a b
  | text a, text b => a = b
  | list as, list bs => sameItems as bs
  | mapping as, mapping bs => as.length = bs.length && within as bs
  | tagged s a, tagged t b => s = t && same a b
  | _, _ => false

/-- Whether two lists hold the same values in the same order. -/
def sameItems : List Value → List Value → Bool
  | [], [] => true
  | a :: as, b :: bs => same a b && sameItems as bs
  | _, _ => false

/-- Whether some members are all among others. -/
def within : List (Value × Value) → List (Value × Value) → Bool
  | [], _ => true
  | (k, v) :: as, bs => (bs.any fun b => same k b.1 && same v b.2) && within as bs

end

/-- A value without its tags. -/
def untagged : Value → Value
  | tagged _ v => v.untagged
  | v => v

/-! ## Names -/

/-- Numbers are written with digits alone, however many it takes. -/
def plainLayout : Binary64.Layout := ⟨-400, 400, false⟩

/-- What a value is called in a refusal. -/
def name : Value → String
  | null => "unit value"
  | flag b => s!"boolean `{b}`"
  | integer n => s!"integer `{n}`"
  | float x => "floating point `" ++ Binary64.text plainLayout x ++ "`"
  | text s => "string " ++ Text.quoted s
  | list _ => "sequence"
  | mapping _ => "map"
  | tagged .. => "enum"

/-- Numbers in keys are written with digits alone from `1e-5` up to `1e15`. -/
def keyLayout : Binary64.Layout := ⟨-5, 15, false⟩

/-- The text of a number in a key. -/
def floatKey : Binary64 → String
  | .nan => ".nan"
  | .infinite negative => if negative then "-.inf" else ".inf"
  | x => Binary64.text keyLayout x

/-- What a key that is given twice is called. -/
def keyName : Value → String
  | null => "with null key"
  | flag b => s!"with key `{b}`"
  | integer n => s!"with key {n}"
  | float x => "with key " ++ floatKey x
  | text s => "with key " ++ Text.quoted s
  | _ => "in YAML map"

end Value

end DriverRegistration.Yaml
