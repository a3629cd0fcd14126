import DriverRegistration.Json.Fault

/-!
# Tokens of a JSON text

Blanks, literal names and strings.  A reader of a token is given the remaining characters and gives
back the token and what remains after it.  A string is read from just after its opening quotation
mark; `stringChars` refuses control characters, unknown escapes and unpaired surrogates.
-/

namespace DriverRegistration.Json

/-- The blanks allowed between tokens. -/
def isBlank (c : Char) : Bool := c = ' ' || c = '\n' || c = '\t' || c = '\r'

/-- The characters after any blanks. -/
def skipBlanks (cs : List Char) : List Char := cs.dropWhile isBlank

/-- Read the rest of a literal name. -/
def literal : List Char → List Char → Except Fault (List Char)
  | [], cs => .ok cs
  | _ :: _, [] => .error (.here .eofValue [])
  | e :: es, c :: cs => if c = e then literal es cs else .error (.next .expectedIdent (c :: cs))

/-! ## Strings -/

/-- The value of a hexadecimal digit of either case. -/
def hexValue? (c : Char) : Option Nat :=
  if '0' ≤ c && c ≤ '9' then some (c.toNat - 48)
  else if 'a' ≤ c && c ≤ 'f' then some (c.toNat - 87)
  else if 'A' ≤ c && c ≤ 'F' then some (c.toNat - 55)
  else none

/-- The number that four hexadecimal digits write. -/
def hexNumber? (a b c d : Char) : Option Nat := do
  return ((← hexValue? a) * 16 + (← hexValue? b)) * 256 + (← hexValue? c) * 16 + (← hexValue? d)

/-- The refusal of what should be four hexadecimal digits: four bytes are taken if there are so
many. -/
def fourHexFault (cs : List Char) : Fault :=
  if Text.byteLength cs < 4 then ⟨.eofString, 0⟩ else ⟨.invalidEscape, Text.byteLength cs - 4⟩

/-- Read four hexadecimal digits. -/
def fourHex : List Char → Except Fault (Nat × List Char)
  | a :: b :: c :: d :: rest =>
    match hexNumber? a b c d with
    | some n => .ok (n, rest)
    | none => .error (fourHexFault (a :: b :: c :: d :: rest))
  | cs => .error (fourHexFault cs)

/-- The character of a pair of surrogates. -/
def surrogatePair (high low : Nat) : Char :=
  Char.ofNat ((high - 0xD800) * 0x400 + (low - 0xDC00) + 0x10000)

/-- Read the low half of a pair of surrogates, which follows as a second escape. -/
def lowSurrogate (high : Nat) : List Char → Except Fault (Char × List Char)
  | '\\' :: 'u' :: cs => do
    let (low, rest) ← fourHex cs
    if 0xDC00 ≤ low && low ≤ 0xDFFF then .ok (surrogatePair high low, rest)
    else .error (.here .loneSurrogate rest)
  | [] => .error (.here .eofString [])
  | ['\\'] => .error (.here .eofString [])
  | '\\' :: cs => .error (.next .unfinishedSurrogate cs)
  | cs => .error (.next .unfinishedSurrogate cs)

/-- Read the digits of a `\u` escape, and of the second one of a pair. -/
def codeEscape (cs : List Char) : Except Fault (Char × List Char) := do
  let (n, rest) ← fourHex cs
  if 0xDC00 ≤ n && n ≤ 0xDFFF then .error (.here .loneSurrogate rest)
  else if 0xD800 ≤ n && n ≤ 0xDBFF then lowSurrogate n rest
  else .ok (Char.ofNat n, rest)

/-- The character of an escape of one letter. -/
def shortEscape? : Char → Option Char
  | '"' => some '"'
  | '\\' => some '\\'
  | '/' => some '/'
  | 'b' => some '\x08'
  | 'f' => some '\x0c'
  | 'n' => some '\n'
  | 'r' => some '\r'
  | 't' => some '\t'
  | _ => none

/-- Read an escape from just after its backslash. -/
def escape : List Char → Except Fault (Char × List Char)
  | [] => .error (.here .eofString [])
  | c :: cs =>
    match shortEscape? c with
    | some e => .ok (e, cs)
    | none => if c = 'u' then codeEscape cs else .error (.next .invalidEscape (c :: cs))

theorem length_fourHex_lt {cs rest : List Char} {n : Nat} (h : fourHex cs = .ok (n, rest)) :
    rest.length < cs.length := by
  unfold fourHex at h
  split at h
  · split at h
    · cases h; simp only [List.length_cons]; omega
    · cases h
  · cases h

theorem length_lowSurrogate_lt {high : Nat} {cs rest : List Char} {c : Char}
    (h : lowSurrogate high cs = .ok (c, rest)) : rest.length < cs.length := by
  unfold lowSurrogate at h
  split at h
  · next ds =>
    simp only [bind, Except.bind] at h
    split at h
    · cases h
    · next v hv =>
      obtain ⟨low, rest'⟩ := v
      have := length_fourHex_lt hv
      simp only at h
      split at h
      · simp only [Except.ok.injEq, Prod.mk.injEq] at h
        simp only [List.length_cons, ← h.2]
        omega
      · cases h
  all_goals cases h

theorem length_codeEscape_lt {cs rest : List Char} {c : Char} (h : codeEscape cs = .ok (c, rest)) :
    rest.length < cs.length := by
  simp only [codeEscape, bind, Except.bind] at h
  split at h
  · cases h
  · next v hv =>
    obtain ⟨n, rest'⟩ := v
    have := length_fourHex_lt hv
    simp only at h
    split at h
    · cases h
    · split at h
      · have := length_lowSurrogate_lt h; omega
      · simp only [Except.ok.injEq, Prod.mk.injEq] at h
        simpa only [← h.2] using this

theorem length_escape_lt {cs rest : List Char} {c : Char} (h : escape cs = .ok (c, rest)) :
    rest.length < cs.length := by
  unfold escape at h
  split at h
  · cases h
  · split at h
    · cases h; simp
    · split at h
      · have := length_codeEscape_lt h; simp only [List.length_cons]; omega
      · cases h

/-- Read the characters of a string and its closing quotation mark. -/
def stringChars (cs : List Char) : Except Fault (List Char × List Char) :=
  match cs with
  | [] => .error (.here .eofString [])
  | c :: r =>
    if c = '"' then .ok ([], r)
    else if c = '\\' then
      match h : escape r with
      | .error f => .error f
      | .ok (e, r') =>
        have : r'.length < r.length := length_escape_lt h
        match stringChars r' with
        | .error f => .error f
        | .ok (s, rest) => .ok (e :: s, rest)
    else if c.toNat < 0x20 then .error (.here .controlCharacter r)
    else
      match stringChars r with
      | .error f => .error f
      | .ok (s, rest) => .ok (c :: s, rest)
termination_by cs.length

/-- Read a string from just after its opening quotation mark. -/
def string (cs : List Char) : Except Fault (String × List Char) := do
  let (s, rest) ← stringChars cs
  return (String.ofList s, rest)

end DriverRegistration.Json
