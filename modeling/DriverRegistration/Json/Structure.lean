import DriverRegistration.Json.Number

/-!
# Values of a JSON text

Objects and lists are read by `members` and `elements`, which find the places of the members and
leave their values to a step function.  `wrongType` is the refusal of a value of another kind, and
`skipValue` passes over a value of any kind.
-/

namespace DriverRegistration.Json

/-- The refusal of a value that is not of the expected kind: a scalar is read first, so that a fault
inside it wins, and the place is after it; a list or an object is refused at its bracket. -/
def wrongType (expected : String) (cs : List Char) : Fault :=
  match cs with
  | 'n' :: r => scalar r "ull" .null
  | 't' :: r => scalar r "rue" (.flag true)
  | 'f' :: r => scalar r "alse" (.flag false)
  | '-' :: r => fromNumber (number true r)
  | '"' :: r =>
    match string r with
    | .ok (s, rest) => .here (.wrongType (.text s) expected) rest
    | .error f => f
  | '[' :: _ => .here (.wrongType .sequence expected) cs
  | '\x7b' :: _ => .here (.wrongType .map expected) cs
  | c :: _ => if c.isDigit then fromNumber (number false cs) else .next .expectedValue cs
  | [] => .next .expectedValue cs
where
  scalar (rest : List Char) (word : String) (found : Found) : Fault :=
    match literal word.toList rest with
    | .ok rest => .here (.wrongType found expected) rest
    | .error f => f
  fromNumber : Except Fault (Number × List Char) → Fault
    | .ok (n, rest) => .here (.wrongType n.found expected) rest
    | .error f => f

/-- The characters of a value, which begins after any blanks. -/
def startOfValue (cs : List Char) : Except Fault (List Char) :=
  match skipBlanks cs with
  | [] => .error (.next .eofValue [])
  | c :: r => .ok (c :: r)

/-- Read a value that must be a string. -/
def textValue (cs : List Char) : Except Fault (String × List Char) := do
  match ← startOfValue cs with
  | '"' :: r => string r
  | r => .error (wrongType "a string" r)

/-- Nothing but blanks may follow the value of a text. -/
def endOfText (cs : List Char) : Except Fault Unit :=
  match skipBlanks cs with
  | [] => .ok ()
  | c :: r => .error (.next .trailingCharacters (c :: r))

/-! ## Objects -/

/-- The characters after a colon. -/
def colon (cs : List Char) : Except Fault (List Char) :=
  match skipBlanks cs with
  | ':' :: r => .ok r
  | [] => .error (.next .eofObject [])
  | c :: r => .error (.next .expectedColon (c :: r))

/-- The next key of an object: the characters after its quotation mark, or nothing when the object
ends here. -/
def nextKey (first : Bool) (cs : List Char) : Except Fault (Option (List Char)) :=
  match skipBlanks cs with
  | [] => .error (.next .eofObject [])
  | '\x7d' :: _ => .ok none
  | c :: r =>
    if first then key (c :: r)
    else if c = ',' then
      match skipBlanks r with
      | '\x7d' :: t => .error (.next .trailingComma ('\x7d' :: t))
      | r => key r
    else .error (.next .expectedObjectEnd (c :: r))
where
  key : List Char → Except Fault (Option (List Char))
    | '"' :: r => .ok (some r)
    | [] => .error (.next .eofValue [])
    | c :: r => .error (.next .keyNotString (c :: r))

/-- The characters after the closing brace of an object, where there is one. -/
def afterBrace (cs : List Char) : List Char :=
  match skipBlanks cs with
  | '\x7d' :: r => r
  | r => r

/-- Read the members of an object one after another: `step` is given a key, what was made of the
members before it and the characters from the colon on.  Ends just before the closing brace. -/
def members {σ : Type} (step : String → σ → List Char → Except Fault (σ × List Char)) :
    Nat → Bool → σ → List Char → Except Fault (σ × List Char)
  | 0, _, _, cs => .error (.here .eofObject cs)
  | fuel + 1, first, s, cs => do
    match ← nextKey first cs with
    | none => .ok (s, skipBlanks cs)
    | some r =>
      let (k, r) ← string r
      let (s, r) ← step k s r
      members step fuel false s r

/-- Read an object from just after its opening brace; `finish` judges the members at the end. -/
def object {σ α : Type} (step : String → σ → List Char → Except Fault (σ × List Char)) (s : σ)
    (finish : σ → Except Cause α) (cs : List Char) : Except Fault (α × List Char) := do
  let (s, rest) ← members step (cs.length + 1) true s cs
  match finish s with
  | .ok a => .ok (a, afterBrace rest)
  | .error cause => .error (.here cause (afterBrace rest))

/-! ## Lists -/

/-- The next element of a list: the characters it begins with, or nothing when the list ends
here. -/
def nextElement (first : Bool) (cs : List Char) : Except Fault (Option (List Char)) :=
  match skipBlanks cs with
  | [] => .error (.next .eofList [])
  | ']' :: _ => .ok none
  | c :: r =>
    if first then .ok (some (c :: r))
    else if c = ',' then
      match skipBlanks r with
      | ']' :: t => .error (.next .trailingComma (']' :: t))
      | [] => .error (.next .eofValue [])
      | r => .ok (some r)
    else .error (.next .expectedListEnd (c :: r))

/-- The characters after the closing bracket of a list, where there is one; a comma in its place is
passed over with the blanks after it. -/
def afterBracket (cs : List Char) : List Char :=
  match skipBlanks cs with
  | ']' :: r => r
  | ',' :: r => skipBlanks r
  | r => r

/-- The end of a list of which no further element is wanted. -/
def endOfList (cs : List Char) : Except Fault (List Char) :=
  match skipBlanks cs with
  | ']' :: r => .ok r
  | [] => .error (.next .eofList [])
  | ',' :: r =>
    match skipBlanks r with
    | ']' :: t => .error (.next .trailingComma (']' :: t))
    | r => .error (.next .trailingCharacters r)
  | c :: r => .error (.next .trailingCharacters (c :: r))

/-- Read the elements of a list one after another.  Ends just before the closing bracket. -/
def elements {α : Type} (item : List Char → Except Fault (α × List Char)) :
    Nat → Bool → List Char → Except Fault (List α × List Char)
  | 0, _, cs => .error (.here .eofList cs)
  | fuel + 1, first, cs => do
    match ← nextElement first cs with
    | none => .ok ([], skipBlanks cs)
    | some r =>
      let (a, r) ← item r
      let (as, r) ← elements item fuel false r
      .ok (a :: as, r)

/-- Read a list from just after its opening bracket. -/
def list {α : Type} (item : List Char → Except Fault (α × List Char)) (cs : List Char) :
    Except Fault (List α × List Char) := do
  let (as, rest) ← elements item (cs.length + 1) true cs
  return (as, afterBracket rest)

/-- Read a value that must be a list. -/
def listValue {α : Type} (expected : String)
    (item : List Char → Except Fault (α × List Char)) (cs : List Char) :
    Except Fault (List α × List Char) := do
  match ← startOfValue cs with
  | '[' :: r => list item r
  | r => .error (wrongType expected r)

/-! ## Values that are passed over -/

/-- Pass over a string: its escapes need only be spelled right. -/
def skipString : List Char → Except Fault (List Char)
  | [] => .error (.here .eofString [])
  | '"' :: cs => .ok cs
  | '\\' :: 'u' :: cs =>
    match cs with
    | a :: b :: c :: d :: rest =>
      if (hexNumber? a b c d).isSome then skipString rest else .error (fourHexFault cs)
    | _ => .error (fourHexFault cs)
  | '\\' :: c :: cs =>
    if (shortEscape? c).isSome then skipString cs else .error (.next .invalidEscape (c :: cs))
  | ['\\'] => .error (.here .eofString [])
  | c :: cs => if c.toNat < 0x20 then .error (.here .controlCharacter (c :: cs)) else skipString cs

/-- Pass over a key and its colon. -/
def skipKey (cs : List Char) : Except Fault (List Char) :=
  match skipBlanks cs with
  | '"' :: r => do colon (← skipString r)
  | [] => .error (.next .eofObject [])
  | c :: r => .error (.next .keyNotString (c :: r))

/-- Pass over one value.  The fuel bounds the steps; twice the characters and one are enough. -/
def skipValue : Nat → List Char → Except Fault (List Char)
  | 0, cs => .error (.here .eofValue cs)
  | fuel + 1, cs => do
    match ← startOfValue cs with
    | 'n' :: r => literal "ull".toList r
    | 't' :: r => literal "rue".toList r
    | 'f' :: r => literal "alse".toList r
    | '-' :: r => skipNumber r
    | '"' :: r => skipString r
    | '[' :: r =>
      match skipBlanks r with
      | ']' :: t => .ok t
      | [] => .error (.next .eofList [])
      | t => skipElements fuel t
    | '\x7b' :: r =>
      match skipBlanks r with
      | '\x7d' :: t => .ok t
      | [] => .error (.next .eofObject [])
      | t => skipMembers fuel t
    | r => if startsWithDigit r then skipNumber r else .error (.next .expectedValue r)
where
  /-- Pass over the elements of a list and its closing bracket. -/
  skipElements : Nat → List Char → Except Fault (List Char)
    | 0, cs => .error (.here .eofList cs)
    | fuel + 1, cs => do
      let rest ← skipValue fuel cs
      match skipBlanks rest with
      | ',' :: t => skipElements fuel t
      | ']' :: t => .ok t
      | [] => .error (.next .eofList [])
      | t => .error (.next .expectedListEnd t)
  /-- Pass over the members of an object and its closing brace. -/
  skipMembers : Nat → List Char → Except Fault (List Char)
    | 0, cs => .error (.here .eofObject cs)
    | fuel + 1, cs => do
      let rest ← skipValue fuel (← skipKey cs)
      match skipBlanks rest with
      | ',' :: t => skipMembers fuel t
      | '\x7d' :: t => .ok t
      | [] => .error (.next .eofObject [])
      | t => .error (.next .expectedObjectEnd t)

/-- Pass over one value, of any depth. -/
def ignoredValue (cs : List Char) : Except Fault (List Char) := skipValue (2 * cs.length + 2) cs

end DriverRegistration.Json
