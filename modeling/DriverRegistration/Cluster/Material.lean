import DriverRegistration.Files.Path
import DriverRegistration.Files.SystemError
import DriverRegistration.Text.Base64
import DriverRegistration.Yaml.Record

/-!
# Certificates and keys of a kubeconfig

A certificate or a key is given in a kubeconfig itself, in base 64, or as the path of a file.
-/

namespace DriverRegistration.Cluster

open Yaml

/-- What reads the file at a path. -/
abbrev FileReader := String → Except SystemError String

/-- What is given in a kubeconfig itself or as the path of a file. -/
structure Material where
  /-- In base 64. -/
  data : Option String := none
  file : Option String := none
  deriving DecidableEq, Repr

namespace Material

/-- Read the members of a record that give a material. -/
def ofMembers (ms : Reader.Members) (name : String) : Except Mismatch Material :=
  return { data := ← ms.get? (name ++ "-data") .string, file := ← ms.get? name .string }

/-- The material as it is seen from the directory of its kubeconfig. -/
def seenFrom (directory : String) (m : Material) : Material :=
  { m with file := m.file.map (FilePath.seenFrom directory) }

/-- Whether nothing is given. -/
def isMissing (m : Material) : Bool := m.data.isNone && m.file.isNone

/-- The octets of a material, if there are any: what is given in the kubeconfig itself counts
more. -/
def load? (m : Material) (read : FileReader) : Option (List UInt8) :=
  match m.data, m.file with
  | some data, _ => Text.ofBase64? data.toList
  | none, some path => (read path).toOption.map Text.utf8
  | none, none => none

end Material

end DriverRegistration.Cluster
