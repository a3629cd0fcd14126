import DriverRegistration.Yaml.Tag

/-!
# Tokens of a YAML text

A token is a scalar, one of the marks that stand around values, or the begin or the end of a block,
which is told by indentation alone.
-/

namespace DriverRegistration.Yaml

/-- What a token is. -/
inductive TokenKind where
  | directive (directive : Directive)
  | documentStart
  | documentEnd
  | textEnd
  | blockSequence
  | blockMapping
  | blockEnd
  | flowSequence
  | flowSequenceEnd
  | flowMapping
  | flowMappingEnd
  | flowEntry
  | blockEntry
  | key
  | value
  | reference (name : String)
  | anchor (name : String)
  | tag (tag : Tag)
  | scalar (text : String) (plain : Bool)
  deriving DecidableEq, Repr

/-- A token and where it begins. -/
structure Token where
  kind : TokenKind
  mark : Mark
  deriving DecidableEq, Repr

namespace TokenKind

/-- Whether a token ends or begins a document. -/
def boundsDocument : TokenKind → Bool
  | directive _ | documentStart | documentEnd | textEnd => true
  | _ => false

/-- Whether a token of a block shows that no value stands before it. -/
def endsBlockMember : TokenKind → Bool
  | key | value | blockEnd => true
  | _ => false

end TokenKind

end DriverRegistration.Yaml
