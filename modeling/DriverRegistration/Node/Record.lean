import DriverRegistration.TextMap

/-!
# Node records

The part of a node that a registrar reads and writes: its name, its annotations and the version
token that the record was read at.
-/

namespace DriverRegistration

/-- What a registrar sees of a node. -/
structure NodeRecord where
  name : String
  /-- The annotations, where the node carries a map of them. -/
  annotations : Option (TextMap String)
  /-- The opaque version that the record was read at. -/
  version : Option String
  deriving DecidableEq, Repr, Inhabited

namespace NodeRecord

/-- The value of a key among the annotations. -/
def value? (r : NodeRecord) (key : String) : Option String :=
  r.annotations.bind (·.get? key)

end NodeRecord

/-- Annotations with a key bound to a value; an empty key binds nothing. -/
def rebind (annotations : Option (TextMap String)) (key value : String) : TextMap String :=
  if key = "" then annotations.getD .empty else (annotations.getD .empty).insert key value

end DriverRegistration
