/-!
# Text without control sequences

A terminal takes some characters as commands: single controls, and sequences that an escape begins.
`plain` leaves them out, so that a text only shows what it says.  White space stays, and a sequence
that is cut short ends with the text.
-/

namespace DriverRegistration.Text

/-- What a terminal has met so far. -/
inductive TerminalState where
  /-- Characters stand for themselves. -/
  | ground
  /-- An escape. -/
  | escape
  /-- An escape and marks that do not end the sequence yet. -/
  | escapeMarks
  /-- A sequence of parameters, up to a letter. -/
  | control
  /-- A command for the system, up to a bell. -/
  | system
  /-- A string, up to the next escape. -/
  | string
  deriving DecidableEq, Repr

namespace TerminalState

/-- The state after an escape and a graphic character. -/
def afterEscape (c : Char) : TerminalState :=
  if c.toNat < 0x30 then escapeMarks
  else if c = '[' then control
  else if c = ']' then system
  else if c = 'P' || c = 'X' || c = '^' || c = '_' then string
  else ground

/-- The state after a graphic character that is not shown. -/
def afterGraphic (s : TerminalState) (c : Char) : TerminalState :=
  match s with
  | ground => ground
  | escape => afterEscape c
  | escapeMarks => if c.toNat < 0x30 then escapeMarks else ground
  | control => if c.toNat < 0x40 then control else ground
  | system => system
  | string => string

/-- Whether controls are carried out in a state, and white space shown. -/
def obeys : TerminalState → Bool
  | system | string => false
  | _ => true

end TerminalState

/-- Whether a control is white space. -/
def isSpacing (c : Char) : Bool := c = '\t' || c = '\n' || c = '\x0c' || c = '\r'

/-- Whether a character is shown in a state. -/
def isShown (s : TerminalState) (c : Char) : Bool :=
  if c.toNat < 0x20 then s.obeys && isSpacing c
  else if c.toNat < 0x7F then s = .ground
  else c.toNat ≠ 0x7F

/-- The state after a character. -/
def nextState (s : TerminalState) (c : Char) : TerminalState :=
  if isShown s c then .ground
  else if c.toNat = 0x1B then .escape
  else if c.toNat = 0x18 || c.toNat = 0x1A then .ground
  else if c.toNat = 0x07 && s = .system then .ground
  else if c.toNat < 0x20 || c.toNat = 0x7F then s
  else s.afterGraphic c

/-- The characters that are shown, from a state on. -/
def shownFrom : TerminalState → List Char → List Char
  | _, [] => []
  | s, c :: cs =>
    if isShown s c then c :: shownFrom (nextState s c) cs else shownFrom (nextState s c) cs

/-- A text without its control sequences. -/
def plain (s : String) : String := String.ofList (shownFrom .ground s.toList)

end DriverRegistration.Text
