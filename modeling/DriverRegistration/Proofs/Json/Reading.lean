import DriverRegistration.Json.Structure
import DriverRegistration.Proofs.Json.Grammar

/-!
# What the grammar admits is read

Every text of the grammar is read to the end, whatever follows it, and gives what it stands for:
`stringChars_append` for the body of a string, `textValue_append` for a literal, and
`object_append` for an object, whose members are handed to a step function in the order of the text.
-/

namespace DriverRegistration.Json

/-! ## Blanks -/

theorem skipBlanks_cons {c : Char} (hc : isBlank c = false) (cs : List Char) :
    skipBlanks (c :: cs) = c :: cs := by
  simp [skipBlanks, hc]

theorem skipBlanks_append {a : List Char} (ha : Blanks a) (cs : List Char) :
    skipBlanks (a ++ cs) = skipBlanks cs := by
  induction a with
  | nil => rfl
  | cons c a ih =>
    have hc : isBlank c = true := ha c List.mem_cons_self
    have hi := ih fun d hd => ha d (List.mem_cons_of_mem _ hd)
    simpa [skipBlanks, hc] using hi

/-- Blanks end at the first character that is none. -/
theorem skipBlanks_append_cons {a : List Char} (ha : Blanks a) {c : Char} (hc : isBlank c = false)
    (cs : List Char) : skipBlanks (a ++ c :: cs) = c :: cs := by
  rw [skipBlanks_append ha, skipBlanks_cons hc]

theorem endOfText_of_blanks {b : List Char} (hb : Blanks b) : endOfText b = .ok () := by
  have hskip := skipBlanks_append hb []
  rw [List.append_nil] at hskip
  simp only [endOfText, hskip]
  rfl

/-! ## Strings -/

theorem escape_of_short {c e : Char} (he : (c, e) ∈ shortEscapes) (cs : List Char) :
    escape (c :: cs) = .ok (e, cs) := by
  simp only [escape, shortEscape?_eq_some_iff.2 he]

theorem fourHex_of_number {a b c d : Char} {n : Nat} (hn : HexNumber a b c d n) (cs : List Char) :
    fourHex (a :: b :: c :: d :: cs) = .ok (n, cs) := by
  simp only [fourHex, hexNumber?_eq_some_iff.2 hn]

/-- A number lies in a range or not, as the reader tests it. -/
theorem inRange_eq_true_iff {lo hi n : Nat} :
    (decide (lo ≤ n) && decide (n ≤ hi)) = true ↔ lo ≤ n ∧ n ≤ hi := by
  rw [Bool.and_eq_true, decide_eq_true_eq, decide_eq_true_eq]

theorem codeEscape_of_number {a b c d : Char} {n : Nat} (hn : HexNumber a b c d n)
    (hs : n < 0xD800 ∨ 0xDFFF < n) (cs : List Char) :
    codeEscape (a :: b :: c :: d :: cs) = .ok (Char.ofNat n, cs) := by
  simp only [codeEscape, fourHex_of_number hn, bind, Except.bind]
  rw [if_neg (by rw [inRange_eq_true_iff]; omega), if_neg (by rw [inRange_eq_true_iff]; omega)]

theorem lowSurrogate_of_number {a b c d : Char} {high low : Nat} (hn : HexNumber a b c d low)
    (hl : 0xDC00 ≤ low ∧ low ≤ 0xDFFF) (cs : List Char) :
    lowSurrogate high ('\\' :: 'u' :: a :: b :: c :: d :: cs) =
      .ok (surrogatePair high low, cs) := by
  simp only [lowSurrogate, fourHex_of_number hn, bind, Except.bind]
  rw [if_pos (inRange_eq_true_iff.2 hl)]

theorem codeEscape_of_pair {a b c d a' b' c' d' : Char} {high low : Nat}
    (hn : HexNumber a b c d high) (hn' : HexNumber a' b' c' d' low)
    (hh : 0xD800 ≤ high ∧ high ≤ 0xDBFF) (hl : 0xDC00 ≤ low ∧ low ≤ 0xDFFF) (cs : List Char) :
    codeEscape (a :: b :: c :: d :: '\\' :: 'u' :: a' :: b' :: c' :: d' :: cs) =
      .ok (Char.ofNat (0x10000 + (high - 0xD800) * 0x400 + (low - 0xDC00)), cs) := by
  have hchar : (high - 0xD800) * 0x400 + (low - 0xDC00) + 0x10000 =
      0x10000 + (high - 0xD800) * 0x400 + (low - 0xDC00) := by omega
  simp only [codeEscape, fourHex_of_number hn, bind, Except.bind]
  rw [if_neg (by rw [inRange_eq_true_iff]; omega), if_pos (inRange_eq_true_iff.2 hh),
    lowSurrogate_of_number hn' hl, surrogatePair, hchar]

theorem stringChars_quote (cs : List Char) : stringChars ('"' :: cs) = .ok ([], cs) := by
  rw [stringChars]
  rfl

theorem stringChars_escape {e : Char} {r r' s rest : List Char} (he : escape r = .ok (e, r'))
    (h : stringChars r' = .ok (s, rest)) : stringChars ('\\' :: r) = .ok (e :: s, rest) := by
  rw [stringChars, if_neg (by decide), if_pos rfl]
  split
  · next he' => rw [he] at he'; cases he'
  · next he' =>
    rw [he] at he'
    cases he'
    rw [h]

theorem stringChars_plain {c : Char} {r s rest : List Char} (hq : c ≠ '"') (hb : c ≠ '\\')
    (hc : 0x20 ≤ c.toNat) (h : stringChars r = .ok (s, rest)) :
    stringChars (c :: r) = .ok (c :: s, rest) := by
  rw [stringChars, if_neg hq, if_neg hb, if_neg (by omega), h]

/-- The body of a string is read up to its closing quotation mark. -/
theorem stringChars_append {w s : List Char} (h : Body w s) (rest : List Char) :
    stringChars (w ++ '"' :: rest) = .ok (s, rest) := by
  induction h with
  | nil => exact stringChars_quote rest
  | plain hq hb hc _ ih => exact stringChars_plain hq hb hc ih
  | short he _ ih => exact stringChars_escape (escape_of_short he _) ih
  | code hn hs _ ih => exact stringChars_escape (codeEscape_of_number hn hs _) ih
  | pair hn hn' hh hl _ ih => exact stringChars_escape (codeEscape_of_pair hn hn' hh hl _) ih

theorem string_append {w : List Char} {s : String} (h : Body w s.toList) (rest : List Char) :
    string (w ++ '"' :: rest) = .ok (s, rest) := by
  simp only [string, stringChars_append h rest, bind, Except.bind, pure, Except.pure,
    String.ofList_toList]

/-- A literal is read as the value that it stands for, after any blanks. -/
theorem textValue_append {a v : List Char} {s : String} (ha : Blanks a) (hv : Literal v s)
    (rest : List Char) : textValue (a ++ (v ++ rest)) = .ok (s, rest) := by
  obtain ⟨h⟩ := hv
  simp only [textValue, startOfValue, List.cons_append, List.append_assoc, List.nil_append,
    skipBlanks_append_cons ha (show isBlank '"' = false from rfl), bind, Except.bind]
  exact string_append h rest

/-! ## Members -/

theorem colon_append {a : List Char} (ha : Blanks a) (cs : List Char) :
    colon (a ++ ':' :: cs) = .ok cs := by
  simp only [colon, skipBlanks_append_cons ha (show isBlank ':' = false from rfl)]

theorem nextKey_end (first : Bool) {a : List Char} (ha : Blanks a) (cs : List Char) :
    nextKey first (a ++ '\x7d' :: cs) = .ok none := by
  simp only [nextKey, skipBlanks_append_cons ha (show isBlank '\x7d' = false from rfl)]

/-- What stands before a member, so that its key is found: nothing before the first one, and a comma
before every other. -/
def Opens (first : Bool) (lead : List Char) : Prop :=
  ∀ {a : List Char} (_ : Blanks a) (cs : List Char),
    nextKey first (lead ++ (a ++ '"' :: cs)) = .ok (some cs)

theorem opens_first : Opens true [] := by
  intro a ha cs
  simp only [List.nil_append, nextKey,
    skipBlanks_append_cons ha (show isBlank '"' = false from rfl)]
  rfl

theorem opens_comma {b : List Char} (hb : Blanks b) : Opens false (b ++ [',']) := by
  intro a ha cs
  have hkey : skipBlanks (a ++ '"' :: cs) = '"' :: cs := skipBlanks_append_cons ha rfl cs
  rw [List.append_assoc, List.singleton_append]
  unfold nextKey
  rw [skipBlanks_append_cons hb rfl]
  simp [hkey, nextKey.key]

section Steps

variable {σ : Type} {step : String → σ → List Char → Except Fault (σ × List Char)}
  {next : σ → String × String → σ}

/-- A step that reads the colon and a string, and goes on to the given state. -/
def ReadsText (step : String → σ → List Char → Except Fault (σ × List Char))
    (next : σ → String × String → σ) : Prop :=
  ∀ (e : String × String) (s : σ) {a b v : List Char} (_ : Blanks a) (_ : Blanks b)
    (_ : Literal v e.2) (rest : List Char),
    step e.1 s (a ++ ':' :: (b ++ (v ++ rest))) = .ok (next s e, rest)

theorem members_end (fuel : Nat) (first : Bool) (s : σ) {a : List Char} (ha : Blanks a)
    (rest : List Char) :
    members step (fuel + 1) first s (a ++ '\x7d' :: rest) = .ok (s, '\x7d' :: rest) := by
  simp only [members, nextKey_end first ha, bind, Except.bind,
    skipBlanks_append_cons ha (show isBlank '\x7d' = false from rfl)]

/-- A member is read from behind the quotation mark of its key: first the key, then by one step. -/
theorem Member.read (hstep : ReadsText step next) {cs : List Char} {e : String × String}
    (hm : Member Blanks cs e) (rest : List Char) :
    ∃ w r, cs ++ rest = '"' :: w ∧ string w = .ok (e.1, r) ∧
      ∀ s, step e.1 s r = .ok (next s e, rest) := by
  obtain ⟨hk, ha, hb, hv⟩ := hm
  obtain ⟨hbody⟩ := hk
  refine ⟨_, _, ?_, string_append hbody _, fun s => hstep e s ha hb hv rest⟩
  simp only [List.cons_append, List.append_assoc, List.nil_append]

/-- One member is read by one step, and the rest like members after a first one. -/
theorem members_member (hstep : ReadsText step next) {first : Bool} {lead a cs : List Char}
    {e : String × String} (hlead : Opens first lead) (ha : Blanks a) (hm : Member Blanks cs e)
    (fuel : Nat) (s : σ) (rest : List Char) :
    members step (fuel + 1) first s (lead ++ (a ++ (cs ++ rest))) =
      members step fuel false (next s e) rest := by
  obtain ⟨w, r, hw, hstring, hr⟩ := hm.read hstep rest
  simp only [members, hw, hlead ha, hstring, hr, bind, Except.bind]

/-- Members are read up to the closing brace, each by one step. -/
theorem members_append (hstep : ReadsText step next) {cs : List Char}
    {es : List (String × String)} (h : Members Blanks cs es) :
    ∀ {first : Bool} {lead : List Char} (_ : Opens first lead) {fuel : Nat}
      (_ : es.length < fuel) (s : σ) (rest : List Char),
      members step fuel first s (lead ++ (cs ++ '\x7d' :: rest)) =
        .ok (es.foldl next s, '\x7d' :: rest) := by
  induction h with
  | @one a cs b e ha hm hb =>
    intro first lead hlead fuel hfuel s rest
    simp only [List.length_cons, List.length_nil] at hfuel
    obtain ⟨fuel, rfl⟩ : ∃ f, fuel = f + 2 := ⟨fuel - 2, by omega⟩
    rw [List.append_assoc, List.append_assoc, members_member hstep hlead ha hm]
    exact members_end fuel false _ hb rest
  | @more a cs b ds e es ha hm hb _ ih =>
    intro first lead hlead fuel hfuel s rest
    simp only [List.length_cons] at hfuel
    obtain ⟨fuel, rfl⟩ : ∃ f, fuel = f + 1 := ⟨fuel - 1, by omega⟩
    have hrest : b ++ ',' :: ds ++ '\x7d' :: rest = (b ++ [',']) ++ (ds ++ '\x7d' :: rest) := by
      simp only [List.append_assoc, List.cons_append, List.nil_append]
    rw [List.append_assoc, List.append_assoc, members_member hstep hlead ha hm, hrest]
    exact ih (opens_comma hb) (by omega) _ rest

/-- Every member takes a character. -/
theorem Members.length_le {ws : List Char → Prop} {cs : List Char} {es : List (String × String)}
    (h : Members ws cs es) : es.length ≤ cs.length := by
  induction h with
  | one ha hm hb =>
    obtain ⟨hk, -, -, -⟩ := hm
    obtain ⟨-⟩ := hk
    simp only [List.length_append, List.length_cons, List.length_nil]
    omega
  | more ha hm hb _ ih =>
    simp only [List.length_append, List.length_cons]
    omega

/-- An object is read to its end, its members one by one. -/
theorem object_append {α : Type} (hstep : ReadsText step next) {cs : List Char}
    {es : List (String × String)} (h : Object Blanks ('\x7b' :: cs) es) (s : σ)
    {finish : σ → Except Cause α} {a : α} (ha : finish (es.foldl next s) = .ok a)
    (rest : List Char) : object step s finish (cs ++ rest) = .ok (a, rest) := by
  have hread : members step ((cs ++ rest).length + 1) true s (cs ++ rest) =
      .ok (es.foldl next s, '\x7d' :: rest) := by
    cases h with
    | empty hb =>
      rw [List.append_assoc]
      exact members_end _ true s hb rest
    | filled hm =>
      have hlen := hm.length_le
      rw [List.append_assoc]
      refine members_append hstep hm opens_first ?_ s rest
      simp only [List.length_append]
      omega
  simp only [object, hread, ha, bind, Except.bind, afterBrace,
    skipBlanks_cons (show isBlank '\x7d' = false from rfl)]

end Steps

end DriverRegistration.Json
