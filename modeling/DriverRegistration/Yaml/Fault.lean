/-!
# Faults of a YAML text

A fault names a problem and the place where it shows, and may name what was being read and where
that began.  A problem with a value also names the path to it.  Places at the very beginning of a
text are not written.
-/

namespace DriverRegistration.Yaml

/-- A place in a text: how many characters lie before it, and its line and column, both from
zero. -/
structure Mark where
  index : Nat := 0
  line : Nat := 0
  column : Nat := 0
  deriving DecidableEq, Repr, Inhabited

namespace Mark

/-- Whether a place is at the very beginning. -/
def isStart (m : Mark) : Bool := m.line = 0 && m.column = 0

/-- A place as it is written. -/
def text (m : Mark) : String := s!" at line {m.line + 1} column {m.column + 1}"

end Mark

/-- What is wrong with a text. -/
inductive Problem where
  | controlCharacter
  | entryNotAllowed
  | keyNotAllowed
  | valueNotAllowed
  | missingColon
  | noToken
  | missingDirectiveName
  | directiveCharacter
  | unknownDirective
  | expectedLineEnd
  | expectedVersionMark
  | longVersion
  | missingVersion
  | expectedBlank
  | expectedBlankOrBreak
  | anchorName
  | expectedTagEnd
  | expectedTagMark
  | expectedTagUri
  | expectedOctet
  | leadingOctet
  | trailingOctet
  | zeroIndent
  | tabInIndent
  | markerInScalar
  | endOfText
  | unknownEscape
  | expectedHexNumber
  | invalidCode
  | colonInFlow
  | tabInScalar
  | expectedDocumentStart
  | duplicateVersion
  | incompatibleVersion
  | duplicateHandle
  | undefinedHandle
  | expectedContent
  | expectedEntry
  | expectedKey
  | expectedSequenceEnd
  | expectedMappingEnd
  | unknownAnchor
  | recursionLimit
  | repetitionLimit
  | endOfEvents
  /-- A value cannot be what it should be. -/
  | badValue (reason : String)
  deriving DecidableEq, Repr

/-- The text of a problem. -/
def Problem.text : Problem → String
  | controlCharacter => "control characters are not allowed"
  | entryNotAllowed => "block sequence entries are not allowed in this context"
  | keyNotAllowed => "mapping keys are not allowed in this context"
  | valueNotAllowed => "mapping values are not allowed in this context"
  | missingColon => "could not find expected ':'"
  | noToken => "found character that cannot start any token"
  | missingDirectiveName => "could not find expected directive name"
  | directiveCharacter => "found unexpected non-alphabetical character"
  | unknownDirective => "found unknown directive name"
  | expectedLineEnd => "did not find expected comment or line break"
  | expectedVersionMark => "did not find expected digit or '.' character"
  | longVersion => "found extremely long version number"
  | missingVersion => "did not find expected version number"
  | expectedBlank => "did not find expected whitespace"
  | expectedBlankOrBreak => "did not find expected whitespace or line break"
  | anchorName => "did not find expected alphabetic or numeric character"
  | expectedTagEnd => "did not find the expected '>'"
  | expectedTagMark => "did not find expected '!'"
  | expectedTagUri => "did not find expected tag URI"
  | expectedOctet => "did not find URI escaped octet"
  | leadingOctet => "found an incorrect leading UTF-8 octet"
  | trailingOctet => "found an incorrect trailing UTF-8 octet"
  | zeroIndent => "found an indentation indicator equal to 0"
  | tabInIndent => "found a tab character where an indentation space is expected"
  | markerInScalar => "found unexpected document indicator"
  | endOfText => "found unexpected end of stream"
  | unknownEscape => "found unknown escape character"
  | expectedHexNumber => "did not find expected hexadecimal number"
  | invalidCode => "found invalid Unicode character escape code"
  | colonInFlow => "found unexpected ':'"
  | tabInScalar => "found a tab character that violates indentation"
  | expectedDocumentStart => "did not find expected <document start>"
  | duplicateVersion => "found duplicate %YAML directive"
  | incompatibleVersion => "found incompatible YAML document"
  | duplicateHandle => "found duplicate %TAG directive"
  | undefinedHandle => "found undefined tag handle"
  | expectedContent => "did not find expected node content"
  | expectedEntry => "did not find expected '-' indicator"
  | expectedKey => "did not find expected key"
  | expectedSequenceEnd => "did not find expected ',' or ']'"
  | expectedMappingEnd => "did not find expected ',' or '\x7d'"
  | unknownAnchor => "unknown anchor"
  | recursionLimit => "recursion limit exceeded"
  | repetitionLimit => "repetition limit exceeded"
  | endOfEvents => "EOF while parsing a value"
  | badValue reason => reason

/-- What was being read when a problem showed. -/
inductive Activity where
  | simpleKey
  | nextToken
  | directive
  | versionDirective
  | tagDirective
  | tagDirectiveMark
  | tagDirectiveHandle
  | tagDirectivePrefix
  | anchor
  | reference
  | tag
  | tagUri
  | blockScalar
  | quotedScalar
  | quotedScalarEscape
  | plainScalar
  | node
  | blockNode
  | flowNode
  | blockSequence
  | blockMapping
  | flowSequence
  | flowMapping
  deriving DecidableEq, Repr

/-- The text of an activity. -/
def Activity.text : Activity → String
  | simpleKey => "while scanning a simple key"
  | nextToken => "while scanning for the next token"
  | directive => "while scanning a directive"
  | versionDirective => "while scanning a %YAML directive"
  | tagDirective => "while scanning a %TAG directive"
  | tagDirectiveMark => "while scanning a tag directive"
  | tagDirectiveHandle => "while parsing a tag directive"
  | tagDirectivePrefix => "while parsing a %TAG directive"
  | anchor => "while scanning an anchor"
  | reference => "while scanning an alias"
  | tag => "while scanning a tag"
  | tagUri => "while parsing a tag"
  | blockScalar => "while scanning a block scalar"
  | quotedScalar => "while scanning a quoted scalar"
  | quotedScalarEscape => "while parsing a quoted scalar"
  | plainScalar => "while scanning a plain scalar"
  | node => "while parsing a node"
  | blockNode => "while parsing a block node"
  | flowNode => "while parsing a flow node"
  | blockSequence => "while parsing a block collection"
  | blockMapping => "while parsing a block mapping"
  | flowSequence => "while parsing a flow sequence"
  | flowMapping => "while parsing a flow mapping"

/-- Why a text is refused. -/
structure Fault where
  problem : Problem
  mark : Mark := {}
  /-- What was being read, and where it began. -/
  context : Option (Activity × Mark) := none
  /-- The path to the value that is refused. -/
  path : Option String := none
  /-- How many bytes lie before a character that no text may hold. -/
  offset : Nat := 0
  deriving DecidableEq, Repr

namespace Fault

/-- The place of a fault as it is written. -/
def place (f : Fault) : String :=
  if !f.mark.isStart then f.mark.text
  else if f.offset ≠ 0 then s!" at position {f.offset}"
  else ""

/-- What was being read as it is written; a place that is that of the problem is not repeated. -/
def reading (f : Fault) : String :=
  match f.context with
  | none => ""
  | some (activity, m) =>
    ", " ++ activity.text ++
      if m.isStart || (m.line = f.mark.line && m.column = f.mark.column) then "" else m.text

/-- The text of a fault. -/
def message (f : Fault) : String :=
  (f.path.map (· ++ ": ")).getD "" ++ f.problem.text ++ f.place ++ f.reading

end Fault

end DriverRegistration.Yaml
