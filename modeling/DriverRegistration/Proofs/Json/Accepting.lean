import DriverRegistration.Proofs.Json.Reading
import Mathlib.Data.List.TakeWhile

/-!
# What is read belongs to the grammar

Whatever a reader accepts is a token of the grammar, with what it stands for, and what follows it is
handed on: `exists_body` for the body of a string, `exists_literal` for a literal, and
`exists_object` for an object, whose members a step function has been given in the order of the
text.
-/

namespace DriverRegistration.Json

theorem bind_eq_ok_iff {ε α β : Type} {x : Except ε α} {f : α → Except ε β} {b : β} :
    x >>= f = .ok b ↔ ∃ a, x = .ok a ∧ f a = .ok b := by
  cases x with
  | error e => exact ⟨nofun, fun ⟨_, h, _⟩ => nomatch h⟩
  | ok a => exact ⟨fun h => ⟨a, rfl, h⟩, fun ⟨_, h, hb⟩ => Except.ok.inj h ▸ hb⟩

/-- What is skipped is blank. -/
theorem exists_blanks (cs : List Char) : ∃ a, Blanks a ∧ cs = a ++ skipBlanks cs := by
  refine ⟨cs.takeWhile isBlank, ?_, List.takeWhile_append_dropWhile.symm⟩
  intro c hc
  exact List.mem_takeWhile_imp hc

theorem exists_blanks_of_eq {cs ds : List Char} (h : skipBlanks cs = ds) :
    ∃ a, Blanks a ∧ cs = a ++ ds := by
  obtain ⟨a, ha, hcs⟩ := exists_blanks cs
  exact ⟨a, ha, h ▸ hcs⟩

theorem blanks_of_endOfText {cs : List Char} (h : endOfText cs = .ok ()) : Blanks cs := by
  unfold endOfText at h
  split at h
  · next hskip =>
    obtain ⟨a, ha, rfl⟩ := exists_blanks_of_eq hskip
    rwa [List.append_nil]
  · cases h

theorem eq_of_literal {word cs rest : List Char} (h : literal word cs = .ok rest) :
    cs = word ++ rest := by
  fun_induction literal word cs with
  | case1 cs => exact Except.ok.inj h
  | case2 => cases h
  | case3 c es cs ih =>
    rw [ih h]
    rfl
  | case4 => cases h

/-! ## Strings -/

theorem exists_hexNumber {cs rest : List Char} {n : Nat} (h : fourHex cs = .ok (n, rest)) :
    ∃ a b c d, cs = a :: b :: c :: d :: rest ∧ HexNumber a b c d n := by
  unfold fourHex at h
  split at h
  · next a b c d rest' =>
    split at h
    · next m hm =>
      cases h
      exact ⟨a, b, c, d, rfl, hexNumber?_eq_some_iff.1 hm⟩
    · cases h
  · cases h

theorem exists_low {high : Nat} {cs rest : List Char} {e : Char}
    (h : lowSurrogate high cs = .ok (e, rest)) :
    ∃ a b c d low, cs = '\\' :: 'u' :: a :: b :: c :: d :: rest ∧ HexNumber a b c d low ∧
      (0xDC00 ≤ low ∧ low ≤ 0xDFFF) ∧ e = surrogatePair high low := by
  unfold lowSurrogate at h
  split at h
  · next ds =>
    obtain ⟨⟨low, rest'⟩, hfour, hlow⟩ := bind_eq_ok_iff.1 h
    obtain ⟨a, b, c, d, rfl, hn⟩ := exists_hexNumber hfour
    simp only [Bool.and_eq_true, decide_eq_true_eq] at hlow
    split at hlow
    · next hl =>
      obtain ⟨he, rfl⟩ := Prod.mk.inj (Except.ok.inj hlow)
      exact ⟨a, b, c, d, low, rfl, hn, hl, he.symm⟩
    · cases hlow
  all_goals cases h

/-- An escape, spelled behind its backslash, goes in front of any body. -/
def Escapes (w : List Char) (e : Char) : Prop :=
  ∀ {v s : List Char}, Body v s → Body ('\\' :: (w ++ v)) (e :: s)

theorem exists_codeEscape {cs rest : List Char} {e : Char} (h : codeEscape cs = .ok (e, rest)) :
    ∃ w, cs = w ++ rest ∧ Escapes ('u' :: w) e := by
  obtain ⟨⟨n, rest'⟩, hfour, hcode⟩ := bind_eq_ok_iff.1 h
  obtain ⟨a, b, c, d, rfl, hn⟩ := exists_hexNumber hfour
  simp only [Bool.and_eq_true, decide_eq_true_eq] at hcode
  split at hcode
  · cases hcode
  · next hlow =>
    split at hcode
    · next hhigh =>
      obtain ⟨a', b', c', d', low, rfl, hn', hl, he⟩ := exists_low hcode
      refine ⟨[a, b, c, d, '\\', 'u', a', b', c', d'], rfl, fun hbody => ?_⟩
      have hpair := Body.pair hn hn' hhigh hl hbody
      rwa [Nat.add_assoc, Nat.add_comm 0x10000, ← surrogatePair, ← he] at hpair
    · next hhigh =>
      cases hcode
      refine ⟨[a, b, c, d], rfl, fun hbody => Body.code hn ?_ hbody⟩
      omega

theorem exists_escape {cs rest : List Char} {e : Char} (h : escape cs = .ok (e, rest)) :
    ∃ w, cs = w ++ rest ∧ Escapes w e := by
  unfold escape at h
  split at h
  · cases h
  · next c cs =>
    split at h
    · next e' he =>
      cases h
      exact ⟨[c], rfl, fun hbody => .short (shortEscape?_eq_some_iff.1 he) hbody⟩
    · split at h
      · next hu =>
        obtain ⟨w, rfl, hw⟩ := exists_codeEscape h
        exact ⟨'u' :: w, by rw [hu]; rfl, hw⟩
      · cases h

/-- Up to the closing quotation mark, what is read is the body of a string. -/
theorem exists_body {cs s rest : List Char} (h : stringChars cs = .ok (s, rest)) :
    ∃ w, cs = w ++ '"' :: rest ∧ Body w s := by
  fun_induction stringChars cs generalizing s rest with
  | case1 => cases h
  | case2 r =>
    cases h
    exact ⟨[], rfl, .nil⟩
  | case3 => cases h
  | case4 => cases h
  | case5 r e r' hesc hlt s' rest' hs hq ih =>
    cases h
    obtain ⟨w, rfl, hbody⟩ := ih hs
    obtain ⟨v, rfl, hv⟩ := exists_escape hesc
    exact ⟨'\\' :: (v ++ w), by simp only [List.cons_append, List.append_assoc], hv hbody⟩
  | case6 => cases h
  | case7 => cases h
  | case8 c r hq hb hc s' rest' hs ih =>
    cases h
    obtain ⟨w, rfl, hbody⟩ := ih hs
    exact ⟨c :: w, rfl, .plain hq hb (by omega) hbody⟩

theorem exists_body_of_string {cs rest : List Char} {s : String} (h : string cs = .ok (s, rest)) :
    ∃ w, cs = w ++ '"' :: rest ∧ Body w s.toList := by
  obtain ⟨⟨s', rest'⟩, hchars, hs⟩ := bind_eq_ok_iff.1 h
  cases hs
  rw [String.toList_ofList]
  exact exists_body hchars

/-- Where a string is read, there are blanks and a literal. -/
theorem exists_literal {cs rest : List Char} {s : String} (h : textValue cs = .ok (s, rest)) :
    ∃ a v, Blanks a ∧ Literal v s ∧ cs = a ++ (v ++ rest) := by
  obtain ⟨ds, hstart, hread⟩ := bind_eq_ok_iff.1 h
  unfold startOfValue at hstart
  split at hstart
  · cases hstart
  · next c r hskip =>
    cases hstart
    split at hread
    · next r' hr =>
      cases hr
      obtain ⟨a, ha, hcs⟩ := exists_blanks_of_eq hskip
      obtain ⟨w, hw, hbody⟩ := exists_body_of_string hread
      refine ⟨a, '"' :: (w ++ ['"']), ha, ⟨hbody⟩, ?_⟩
      rw [hcs, hw]
      simp only [List.cons_append, List.append_assoc, List.nil_append]
    · cases hread

/-! ## Members -/

theorem exists_colon {cs rest : List Char} (h : colon cs = .ok rest) :
    ∃ a, Blanks a ∧ cs = a ++ ':' :: rest := by
  unfold colon at h
  split at h
  · next hskip =>
    cases h
    exact exists_blanks_of_eq hskip
  · cases h
  · cases h

theorem exists_of_key {cs : List Char} {found : Option (List Char)}
    (h : nextKey.key cs = .ok found) : ∃ r, cs = '"' :: r ∧ found = some r := by
  unfold nextKey.key at h
  split at h
  · next r =>
    cases h
    exact ⟨r, rfl, rfl⟩
  · cases h
  · cases h

/-- What stands before the blanks and the key of a member: nothing before the first one, and blanks
and a comma before every other. -/
def Lead (first : Bool) (lead : List Char) : Prop :=
  if first then lead = [] else ∃ b, Blanks b ∧ lead = b ++ [',']

/-- The next key of an object is found behind its lead, or the object ends after blanks. -/
theorem exists_of_nextKey {first : Bool} {cs : List Char} {found : Option (List Char)}
    (h : nextKey first cs = .ok found) :
    (found = none ∧ ∃ a t, Blanks a ∧ cs = a ++ '\x7d' :: t ∧ skipBlanks cs = '\x7d' :: t) ∨
      ∃ lead a r, found = some r ∧ Lead first lead ∧ Blanks a ∧ cs = lead ++ (a ++ '"' :: r) := by
  obtain ⟨a, ha, hcs⟩ := exists_blanks cs
  unfold nextKey at h
  split at h
  · cases h
  · next t hskip =>
    cases h
    exact Or.inl ⟨rfl, a, t, ha, hskip ▸ hcs, hskip⟩
  · next c r _ hskip =>
    rw [hskip] at hcs
    refine Or.inr ?_
    split at h
    · next hfirst =>
      obtain ⟨r', hr, hfound⟩ := exists_of_key h
      exact ⟨[], a, r', hfound, by rw [Lead, if_pos hfirst], ha, by rw [hcs, hr]; rfl⟩
    · next hfirst =>
      split at h
      · next hc =>
        obtain ⟨b, hb, hr⟩ := exists_blanks r
        split at h
        · cases h
        · obtain ⟨r', hkey, hfound⟩ := exists_of_key h
          refine ⟨a ++ [','], b, r', hfound, ?_, hb, ?_⟩
          · rw [Lead, if_neg hfirst]
            exact ⟨a, ha, rfl⟩
          · rw [hkey] at hr
            rw [hcs, hc, hr]
            simp only [List.append_assoc, List.cons_append, List.nil_append]
      · cases h

section Steps

variable {σ : Type} {step : String → σ → List Char → Except Fault (σ × List Char)}
  {next : σ → String × String → σ}

/-- A step that accepts only a colon and a string, and goes on to the given state. -/
def TakesText (step : String → σ → List Char → Except Fault (σ × List Char))
    (next : σ → String × String → σ) : Prop :=
  ∀ (k : String) (s s' : σ) (cs rest : List Char), step k s cs = .ok (s', rest) →
    ∃ a b v value, Blanks a ∧ Blanks b ∧ Literal v value ∧ cs = a ++ ':' :: (b ++ (v ++ rest)) ∧
      s' = next s (k, value)

/-- What is read as members ends at a closing brace, and is nothing but blanks or members behind
their lead. -/
theorem exists_members (hstep : TakesText step next) {fuel : Nat} {first : Bool} {s s' : σ}
    {cs rest : List Char} (h : members step fuel first s cs = .ok (s', rest)) :
    ∃ t, rest = '\x7d' :: t ∧
      ((s' = s ∧ ∃ a, Blanks a ∧ cs = a ++ rest) ∨
        ∃ lead ds es, Lead first lead ∧ Members Blanks ds es ∧ s' = es.foldl next s ∧
          cs = lead ++ (ds ++ rest)) := by
  induction fuel generalizing first s cs with
  | zero => cases h
  | succ fuel ih =>
    obtain ⟨found, hkey, hread⟩ := bind_eq_ok_iff.1 h
    rcases exists_of_nextKey hkey with
      ⟨rfl, a, t, ha, hcs, hskip⟩ | ⟨lead, a, r, rfl, hlead, ha, hcs⟩
    · cases hread
      exact ⟨t, hskip, Or.inl ⟨rfl, a, ha, by rw [hskip, ← hcs]⟩⟩
    · obtain ⟨⟨k, r'⟩, hstring, hvalue⟩ := bind_eq_ok_iff.1 hread
      obtain ⟨⟨s₁, r₁⟩, hs₁, hmore⟩ := bind_eq_ok_iff.1 hvalue
      obtain ⟨w, rfl, hbody⟩ := exists_body_of_string hstring
      obtain ⟨b, c, v, value, hb, hc, hv, rfl, rfl⟩ := hstep _ _ _ _ _ hs₁
      have hmember : Member Blanks ('"' :: (w ++ ['"']) ++ (b ++ ':' :: (c ++ v))) (k, value) :=
        .mk ⟨hbody⟩ hb hc hv
      obtain ⟨t, hrest, ⟨rfl, d, hd, rfl⟩ | ⟨lead', ds, es, hlead', hds, rfl, rfl⟩⟩ := ih hmore
      · refine ⟨t, hrest, Or.inr ⟨lead, _, _, hlead, .one ha hmember hd, rfl, ?_⟩⟩
        rw [hcs]
        simp only [List.append_assoc, List.cons_append, List.nil_append]
      · obtain ⟨d, hd, rfl⟩ : ∃ d, Blanks d ∧ lead' = d ++ [','] := hlead'
        refine ⟨t, hrest, Or.inr ⟨lead, _, _, hlead, .more ha hmember hd hds, rfl, ?_⟩⟩
        rw [hcs]
        simp only [List.append_assoc, List.cons_append, List.nil_append]

/-- What is read as an object behind its opening brace is one, and its members have been handed to
the step one by one. -/
theorem exists_object {α : Type} (hstep : TakesText step next) {finish : σ → Except Cause α}
    {s : σ} {a : α} {cs rest : List Char} (h : object step s finish cs = .ok (a, rest)) :
    ∃ ds es, cs = ds ++ rest ∧ Object Blanks ('\x7b' :: ds) es ∧
      finish (es.foldl next s) = .ok a := by
  obtain ⟨⟨s', rest'⟩, hmembers, hend⟩ := bind_eq_ok_iff.1 h
  obtain ⟨t, rfl, hcases⟩ := exists_members hstep hmembers
  have hbrace : afterBrace ('\x7d' :: t) = t := by
    simp only [afterBrace, skipBlanks_cons (show isBlank '\x7d' = false from rfl)]
  dsimp only at hend
  rw [hbrace] at hend
  split at hend
  · next a' hfinish =>
    obtain ⟨rfl, rfl⟩ := Prod.mk.inj (Except.ok.inj hend)
    rcases hcases with ⟨rfl, b, hb, rfl⟩ | ⟨lead, ds, es, hlead, hds, rfl, rfl⟩
    · refine ⟨b ++ ['\x7d'], [], ?_, .empty hb, hfinish⟩
      simp only [List.append_assoc, List.cons_append, List.nil_append]
    · obtain rfl : lead = [] := hlead
      refine ⟨ds ++ ['\x7d'], es, ?_, .filled hds, hfinish⟩
      simp only [List.append_assoc, List.cons_append, List.nil_append]
  · cases hend

end Steps

end DriverRegistration.Json
