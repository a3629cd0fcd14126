import DriverRegistration.DriverMap

/-!
# Edits of the driver map

One logical change names one driver: its entry is set or dropped.  `DriverEdit.apply` gives the
changed map, or nothing when the map already reflects the edit.
-/

namespace DriverRegistration

/-- One logical change to a driver map. -/
inductive DriverEdit where
  /-- Record a driver with its node id. -/
  | upsert (name nodeId : String)
  /-- Drop the entry of a driver. -/
  | remove (name : String)
  deriving DecidableEq, Repr

namespace DriverEdit

/-- The driver whose entry the edit touches. -/
def driver : DriverEdit → String
  | upsert name _ => name
  | remove name => name

/-- What the edit makes of the entry of its driver. -/
def target : DriverEdit → Option String
  | upsert _ nodeId => some nodeId
  | remove _ => none

/-- Whether the map already reflects the edit. -/
def holds (e : DriverEdit) (m : DriverMap) : Bool := m.get? e.driver = e.target

/-- The map with the edit made in it. -/
def run : DriverEdit → DriverMap → DriverMap
  | upsert name nodeId, m => m.insert name nodeId
  | remove name, m => m.erase name

/-- The changed map, or nothing when there is nothing to change. -/
def apply (e : DriverEdit) (m : DriverMap) : Option DriverMap :=
  if e.holds m then none else some (e.run m)

@[simp] theorem get?_run (e : DriverEdit) (m : DriverMap) (k : String) :
    (e.run m).get? k = if k = e.driver then e.target else m.get? k := by
  cases e with
  | upsert name nodeId => exact TextMap.get?_insert ..
  | remove name => exact TextMap.get?_erase ..

/-- An edit that a map reflects leaves it as it is. -/
theorem run_eq_self {e : DriverEdit} {m : DriverMap} (h : e.holds m = true) : e.run m = m :=
  TextMap.ext_get? fun k => by
    rw [get?_run]
    split
    · next hk => subst hk; exact (of_decide_eq_true h).symm
    · rfl

/-- Made once, an edit is reflected. -/
theorem holds_run (e : DriverEdit) (m : DriverMap) : e.holds (e.run m) = true := by
  simp [holds]

/-- One step of a sequence of edits: whose entry it touched, whether the map changed, and the text
of the map after it. -/
structure Step where
  driver : String
  changed : Bool
  encoded : String
  deriving DecidableEq, Repr

/-- Make edits one after another, with an account of each. -/
def runAll : List DriverEdit → DriverMap → List Step
  | [], _ => []
  | e :: es, m => ⟨e.driver, !e.holds m, DriverMap.encode (e.run m)⟩ :: runAll es (e.run m)

end DriverEdit

end DriverRegistration
