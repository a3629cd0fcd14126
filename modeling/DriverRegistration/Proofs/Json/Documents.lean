import DriverRegistration.Json.Members
import DriverRegistration.Proofs.Json.Accepting
import DriverRegistration.Proofs.Json.Skipping
import Mathlib.Data.List.Forall2

/-!
# Reading where any value may stand

A reader is settled by what it makes of a value that stands where it is called, be it of the kind
that it reads or not (`Reads`).  From such readers lists (`listValue_reads`) and objects
(`object_iff`) are settled, whose members may come in any order and among others.
-/

namespace DriverRegistration.Json

/-! ## Strings -/

theorem Body.unique {w s s' : List Char} (h : Body w s) (h' : Body w s') : s = s' := by
  have hread := stringChars_append h []
  rw [stringChars_append h' []] at hread
  cases hread
  rfl

theorem string_iff {k : List Char} (hk : Spelled k) (rest : List Char) {key : String}
    {rest' : List Char} :
    string (k ++ '"' :: rest) = .ok (key, rest') ↔ rest' = rest ∧ Body k key.toList := by
  constructor
  · intro h
    -- what is read is a string that is passed over, too, and that ends at the same place
    obtain ⟨w, heq, hbody⟩ := exists_body_of_string h
    have hskip : skipString (w ++ '"' :: rest') = .ok rest' := skipString_append hbody.spelled rest'
    rw [← heq, skipString_append hk] at hskip
    cases hskip
    obtain rfl : k = w := List.append_cancel_right heq
    exact ⟨rfl, hbody⟩
  · rintro ⟨rfl, hbody⟩
    exact string_append hbody _

theorem literal_iff {w : List Char} {s : String} :
    Literal ('"' :: (w ++ ['"'])) s ↔ Body w s.toList := by
  refine ⟨fun h => ?_, fun h => ⟨h⟩⟩
  generalize hv : '"' :: (w ++ ['"']) = v at h
  obtain ⟨hbody⟩ := h
  obtain rfl := List.append_cancel_right (List.cons.inj hv).2
  exact hbody

/-! ## Values -/

/-- What a reader makes of a value, after any blanks: it reads those of its kind to their end, and
refuses the others. -/
def Reads {α : Type} (value : List Char → Except Fault (α × List Char))
    (P : List Char → α → Prop) : Prop :=
  ∀ {a v rest rest' : List Char} {x : α}, Blanks a → Spells .value v → Ends rest →
    (value (a ++ (v ++ rest)) = .ok (x, rest') ↔ rest' = rest ∧ P v x)

theorem textValue_reads : Reads textValue Literal := by
  intro a v rest rest' s ha hv _
  obtain ⟨c, u, rfl, hc, -⟩ := hv.exists_first
  by_cases hquote : c = '"'
  · subst hquote
    obtain ⟨w, rfl, hw⟩ := hv.exists_spelled
    have hread : textValue (a ++ ('"' :: (w ++ ['"']) ++ rest)) = string (w ++ '"' :: rest) := by
      simp only [textValue, startOfValue, List.cons_append, List.append_assoc, List.nil_append,
        skipBlanks_append_cons ha hc, bind, Except.bind]
    rw [hread, string_iff hw, literal_iff]
  -- a value that does not begin with a quotation mark is refused, and stands for no text
  · constructor
    · intro h
      obtain ⟨a', v', ha', hv', heq⟩ := exists_literal h
      obtain ⟨_⟩ := hv'
      have hskip := congrArg skipBlanks heq
      rw [List.cons_append, List.cons_append, skipBlanks_append_cons ha hc,
        skipBlanks_append_cons ha' rfl] at hskip
      exact absurd (List.cons.inj hskip).1 hquote
    · rintro ⟨-, hlit⟩
      cases hlit
      exact absurd rfl hquote

/-! ## Lists -/

/-- What stands before an element, so that it is found: nothing before the first one, and a comma
before every other. -/
def OpensElement (first : Bool) (lead : List Char) : Prop :=
  ∀ {a v : List Char} (_ : Blanks a) (_ : Spells .value v) (rest : List Char),
    nextElement first (lead ++ (a ++ (v ++ rest))) = .ok (some (v ++ rest))

theorem opensElement_first : OpensElement true [] := by
  intro a v ha hv rest
  obtain ⟨c, u, rfl, hc, hne⟩ := hv.exists_first
  rw [List.nil_append, List.cons_append, nextElement, skipBlanks_append_cons ha hc]
  split
  · next heq => cases heq
  · next heq => exact absurd (List.cons.inj heq).1 hne
  · next heq =>
    cases heq
    rfl

theorem opensElement_comma {b : List Char} (hb : Blanks b) : OpensElement false (b ++ [',']) := by
  intro a v ha hv rest
  obtain ⟨c, u, rfl, hc, hne⟩ := hv.exists_first
  have hskip : skipBlanks (b ++ [','] ++ (a ++ (c :: u ++ rest))) =
      ',' :: (a ++ (c :: u ++ rest)) := by
    rw [List.append_assoc]
    exact skipBlanks_append_cons hb rfl _
  have hvalue : skipBlanks (a ++ (c :: u ++ rest)) = c :: (u ++ rest) :=
    skipBlanks_append_cons ha hc _
  unfold nextElement
  rw [hskip]
  split
  · next heq => cases heq
  · next heq => cases heq
  · next heq =>
    cases heq
    rw [if_neg Bool.false_ne_true, if_pos rfl, hvalue]
    split
    · next heq => exact absurd (List.cons.inj heq).1 hne
    · next heq => cases heq
    · rfl

theorem nextElement_end (first : Bool) {a : List Char} (ha : Blanks a) (rest : List Char) :
    nextElement first (a ++ ']' :: rest) = .ok none := by
  simp only [nextElement, skipBlanks_append_cons ha (show isBlank ']' = false from rfl)]

section Elements

variable {α : Type} {item : List Char → Except Fault (α × List Char)} {P : List Char → α → Prop}

theorem elements_end (fuel : Nat) (first : Bool) {a : List Char} (ha : Blanks a)
    (rest : List Char) :
    elements item (fuel + 1) first (a ++ ']' :: rest) = .ok ([], ']' :: rest) := by
  simp only [elements, nextElement_end first ha, bind, Except.bind,
    skipBlanks_append_cons ha (show isBlank ']' = false from rfl)]

/-- One element is read, and the rest like elements after a first one. -/
theorem elements_element (hitem : Reads item P) {first : Bool} {lead a v : List Char}
    (hlead : OpensElement first lead) (ha : Blanks a) (hv : Spells .value v) (fuel : Nat)
    {rest rest' : List Char} (hrest : Ends rest) {xs : List α} :
    elements item (fuel + 1) first (lead ++ (a ++ (v ++ rest))) = .ok (xs, rest') ↔
      ∃ y ys, xs = y :: ys ∧ P v y ∧ elements item fuel false rest = .ok (ys, rest') := by
  have hfound : elements item (fuel + 1) first (lead ++ (a ++ (v ++ rest))) =
      item (v ++ rest) >>= fun x => elements item fuel false x.2 >>= fun xs =>
        .ok (x.1 :: xs.1, xs.2) := by
    rw [elements, hlead ha hv]
    rfl
  have hread {y : α} {r : List Char} : item (v ++ rest) = .ok (y, r) ↔ r = rest ∧ P v y :=
    hitem (a := []) (show Blanks [] from nofun) hv hrest
  rw [hfound, bind_eq_ok_iff]
  constructor
  · rintro ⟨⟨y, r⟩, hy, hys⟩
    obtain ⟨rfl, hP⟩ := hread.1 hy
    obtain ⟨⟨ys, r⟩, hrec, hxs⟩ := bind_eq_ok_iff.1 hys
    cases hxs
    exact ⟨y, ys, rfl, hP, hrec⟩
  · rintro ⟨y, ys, rfl, hP, hrec⟩
    refine ⟨(y, rest), hread.2 ⟨rfl, hP⟩, ?_⟩
    rw [hrec]
    rfl

/-- The elements of a list are read up to its closing bracket, each by itself. -/
theorem elements_iff (hitem : Reads item P) {cs : List Char} {vs : List (List Char)}
    (h : Spells (.elements vs) cs) :
    ∀ {first : Bool} {lead : List Char} (_ : OpensElement first lead) {fuel : Nat}
      (_ : vs.length < fuel) {rest rest' : List Char} {xs : List α},
      elements item fuel first (lead ++ (cs ++ ']' :: rest)) = .ok (xs, rest') ↔
        rest' = ']' :: rest ∧ List.Forall₂ P vs xs := by
  generalize hp : Phrase.elements vs = p at h
  induction h generalizing vs with
  | @lastElement a v b ha hv hb ih =>
    cases hp
    intro first lead hlead fuel hfuel rest rest' xs
    simp only [List.length_cons, List.length_nil] at hfuel
    obtain ⟨fuel, rfl⟩ : ∃ f, fuel = f + 2 := ⟨fuel - 2, by omega⟩
    rw [List.append_assoc, List.append_assoc,
      elements_element hitem hlead ha hv (fuel + 1) (ends_bracket hb rest),
      elements_end fuel false hb]
    constructor
    · rintro ⟨y, ys, rfl, hy, hys⟩
      cases hys
      exact ⟨rfl, .cons hy .nil⟩
    · rintro ⟨rfl, hxs⟩
      cases hxs with
      | cons hy hnil =>
        cases hnil
        exact ⟨_, [], rfl, hy, rfl⟩
  | @element a v b cs vs ha hv hb hs ihv ih =>
    cases hp
    intro first lead hlead fuel hfuel rest rest' xs
    simp only [List.length_cons] at hfuel
    obtain ⟨fuel, rfl⟩ : ∃ f, fuel = f + 1 := ⟨fuel - 1, by omega⟩
    have hmore : b ++ ',' :: cs ++ ']' :: rest = (b ++ [',']) ++ (cs ++ ']' :: rest) := by
      simp only [List.append_assoc, List.cons_append, List.nil_append]
    have hends : Ends ((b ++ [',']) ++ (cs ++ ']' :: rest)) := by
      rw [List.append_assoc]
      exact ends_comma hb _
    rw [List.append_assoc, List.append_assoc, hmore,
      elements_element hitem hlead ha hv fuel hends]
    constructor
    · rintro ⟨y, ys, rfl, hy, hys⟩
      obtain ⟨rfl, hmany⟩ := (ih rfl (opensElement_comma hb) (by omega)).1 hys
      exact ⟨rfl, .cons hy hmany⟩
    · rintro ⟨rfl, hxs⟩
      cases hxs with
      | cons hy hmany =>
        exact ⟨_, _, rfl, hy, (ih rfl (opensElement_comma hb) (by omega)).2 ⟨rfl, hmany⟩⟩
  | _ => cases hp

theorem list_iff (hitem : Reads item P) {u : List Char} {vs : List (List Char)}
    (h : Spells (.list vs) ('[' :: u)) {rest rest' : List Char} {xs : List α} :
    list item (u ++ rest) = .ok (xs, rest') ↔ rest' = rest ∧ List.Forall₂ P vs xs := by
  have hread : ∀ {ys : List α} {r : List Char},
      elements item ((u ++ rest).length + 1) true (u ++ rest) = .ok (ys, r) ↔
        r = ']' :: rest ∧ List.Forall₂ P vs ys := by
    intro ys r
    cases h with
    | emptyList ha =>
      rw [List.append_assoc, List.singleton_append, elements_end _ true ha]
      constructor
      · intro h
        cases h
        exact ⟨rfl, .nil⟩
      · rintro ⟨rfl, hnil⟩
        cases hnil
        rfl
    | filledList hs =>
      have hlength := hs.length_elements_le
      rw [List.append_assoc]
      refine elements_iff hitem hs opensElement_first ?_
      simp only [List.length_append]
      omega
  have hafter : afterBracket (']' :: rest) = rest := by
    simp only [afterBracket, skipBlanks_cons (show isBlank ']' = false from rfl)]
  rw [list, bind_eq_ok_iff]
  constructor
  · rintro ⟨⟨ys, r⟩, hys, hxs⟩
    obtain ⟨rfl, hP⟩ := hread.1 hys
    cases hxs
    exact ⟨hafter, hP⟩
  · rintro ⟨rfl, hP⟩
    exact ⟨(xs, ']' :: rest'), hread.2 ⟨rfl, hP⟩, congrArg (fun r => Except.ok (xs, r)) hafter⟩

/-- The list of what its elements stand for. -/
def ListOf (P : List Char → α → Prop) (v : List Char) (xs : List α) : Prop :=
  ∃ vs, Spells (.list vs) v ∧ List.Forall₂ P vs xs

theorem listValue_reads (hitem : Reads item P) (expected : String) :
    Reads (listValue expected item) (ListOf P) := by
  intro a v rest rest' xs ha hv _
  obtain ⟨c, u, rfl, hc, -⟩ := hv.exists_first
  by_cases hbracket : c = '['
  · subst hbracket
    obtain ⟨vs, hlist⟩ := hv.exists_list
    have hread : listValue expected item (a ++ ('[' :: u ++ rest)) = list item (u ++ rest) := by
      simp only [listValue, startOfValue, List.cons_append, skipBlanks_append_cons ha hc, bind,
        Except.bind]
    rw [hread]
    constructor
    · intro h
      obtain ⟨hrest, hxs⟩ := (list_iff hitem hlist).1 h
      exact ⟨hrest, vs, hlist, hxs⟩
    · rintro ⟨rfl, vs', hlist', hxs⟩
      exact (list_iff hitem hlist').2 ⟨rfl, hxs⟩
  · constructor
    · intro h
      simp only [listValue, startOfValue, List.cons_append, skipBlanks_append_cons ha hc, bind,
        Except.bind] at h
      split at h
      · next heq => exact absurd (List.cons.inj heq).1 hbracket
      · cases h
    · rintro ⟨-, vs, hlist, -⟩
      obtain ⟨w, hw⟩ := hlist.exists_bracket
      exact absurd (List.cons.inj hw).1 hbracket

end Elements

/-! ## Objects -/

/-- The key of a member, as it is spelled, stands for a text. -/
def Names (m : List Char × List Char) (key : String) : Prop := Body m.1 key.toList

theorem Names.unique {m : List Char × List Char} {key key' : String} (h : Names m key)
    (h' : Names m key') : key = key' :=
  String.toList_inj.1 (Body.unique h h')

section Steps

variable {σ : Type} {step : String → σ → List Char → Except Fault (σ × List Char)}
  {R : String → List Char → σ → σ → Prop}

/-- What a step makes of a key and of the value behind it: it goes on to states that `R` allows. -/
def ReadsMember (step : String → σ → List Char → Except Fault (σ × List Char))
    (R : String → List Char → σ → σ → Prop) : Prop :=
  ∀ {key : String} {s s' : σ} {b c v rest rest' : List Char}, Blanks b → Blanks c →
    Spells .value v → Ends rest →
      (step key s (b ++ ':' :: (c ++ (v ++ rest))) = .ok (s', rest') ↔ rest' = rest ∧ R key v s s')

/-- Members are taken one after another, each by its key. -/
inductive Run (R : String → List Char → σ → σ → Prop) :
    List (List Char × List Char) → σ → σ → Prop
  | nil {s : σ} : Run R [] s s
  | cons {m : List Char × List Char} {ms : List (List Char × List Char)} {key : String} {s t u : σ}
      (hk : Names m key) (h : R key m.2 s t) (hs : Run R ms t u) : Run R (m :: ms) s u

theorem run_nil_iff {s t : σ} : Run R [] s t ↔ t = s := by
  constructor
  · intro h
    cases h
    rfl
  · rintro rfl
    exact .nil

theorem run_cons_iff {m : List Char × List Char} {ms : List (List Char × List Char)} {s u : σ} :
    Run R (m :: ms) s u ↔ ∃ (key : String) (t : σ), Names m key ∧ R key m.2 s t ∧ Run R ms t u := by
  constructor
  · intro h
    cases h with
    | cons hk h hs => exact ⟨_, _, hk, h, hs⟩
  · rintro ⟨key, t, hk, h, hs⟩
    exact .cons hk h hs

/-- A run is seen through a function of the states if every step is. -/
theorem Run.map {τ : Type} {R' : String → List Char → τ → τ → Prop} (f : σ → τ)
    (hstep : ∀ key v s t, R key v s t → R' key v (f s) (f t)) {ms : List (List Char × List Char)}
    {s t : σ} (h : Run R ms s t) : Run R' ms (f s) (f t) := by
  induction h with
  | nil => exact .nil
  | cons hk h _ ih => exact .cons hk (hstep _ _ _ _ h) ih

/-- One member is taken by one step, and the rest like members after a first one. -/
theorem members_cons_iff (hstep : ReadsMember step R) {first : Bool}
    {lead a k b c v rest rest' : List Char} (hlead : Opens first lead) (ha : Blanks a)
    (hk : Spelled k) (hb : Blanks b) (hc : Blanks c) (hv : Spells .value v) (hrest : Ends rest)
    (fuel : Nat) {s u : σ} :
    members step (fuel + 1) first s
        (lead ++ (a ++ '"' :: (k ++ '"' :: (b ++ ':' :: (c ++ (v ++ rest)))))) = .ok (u, rest') ↔
      ∃ (key : String) (t : σ), Names (k, v) key ∧ R key v s t ∧
        members step fuel false t rest = .ok (u, rest') := by
  have hfound {r : List Char} : members step (fuel + 1) first s (lead ++ (a ++ '"' :: r)) =
      string r >>= fun x => step x.1 s x.2 >>= fun y => members step fuel false y.1 y.2 := by
    rw [members, hlead ha]
    rfl
  rw [hfound]
  constructor
  · intro h
    obtain ⟨⟨key, r⟩, hkey, htaken⟩ := bind_eq_ok_iff.1 h
    obtain ⟨rfl, hbody⟩ := (string_iff hk _).1 hkey
    obtain ⟨⟨t, r⟩, ht, hmore⟩ := bind_eq_ok_iff.1 htaken
    obtain ⟨rfl, hR⟩ := (hstep hb hc hv hrest).1 ht
    exact ⟨key, t, hbody, hR, hmore⟩
  · rintro ⟨key, t, hbody, hR, h⟩
    refine bind_eq_ok_iff.2 ⟨_, (string_iff hk _).2 ⟨rfl, hbody⟩, ?_⟩
    exact bind_eq_ok_iff.2 ⟨_, (hstep hb hc hv hrest).2 ⟨rfl, hR⟩, h⟩

/-- The members of an object are read up to its closing brace, in the order of the text. -/
theorem members_iff (hstep : ReadsMember step R) {cs : List Char}
    {ms : List (List Char × List Char)} (h : Spells (.members ms) cs) :
    ∀ {first : Bool} {lead : List Char} (_ : Opens first lead) {fuel : Nat}
      (_ : ms.length < fuel) {s u : σ} {rest rest' : List Char},
      members step fuel first s (lead ++ (cs ++ '\x7d' :: rest)) = .ok (u, rest') ↔
        rest' = '\x7d' :: rest ∧ Run R ms s u := by
  generalize hp : Phrase.members ms = p at h
  induction h generalizing ms with
  | lastMember ha hk hb hc hv hd ih =>
    cases hp
    intro first lead hlead fuel hfuel s u rest rest'
    simp only [List.length_cons, List.length_nil] at hfuel
    obtain ⟨fuel, rfl⟩ : ∃ f, fuel = f + 2 := ⟨fuel - 2, by omega⟩
    simp only [List.append_assoc, List.cons_append]
    rw [members_cons_iff hstep hlead ha hk hb hc hv (ends_brace hd rest), run_cons_iff]
    simp only [members_end fuel false _ hd, run_nil_iff]
    constructor
    · rintro ⟨key, t, hkey, hR, h⟩
      cases h
      exact ⟨rfl, key, _, hkey, hR, rfl⟩
    · rintro ⟨rfl, key, t, hkey, hR, rfl⟩
      exact ⟨key, _, hkey, hR, rfl⟩
  | @member a k b c v d cs ms ha hk hb hc hv hd hs ihv ih =>
    cases hp
    intro first lead hlead fuel hfuel s u rest rest'
    simp only [List.length_cons] at hfuel
    obtain ⟨fuel, rfl⟩ : ∃ f, fuel = f + 1 := ⟨fuel - 1, by omega⟩
    have hmore : d ++ ',' :: (cs ++ '\x7d' :: rest) = (d ++ [',']) ++ (cs ++ '\x7d' :: rest) := by
      rw [List.append_assoc]
      rfl
    have hread {t : σ} : members step fuel false t (d ++ ',' :: (cs ++ '\x7d' :: rest)) =
        .ok (u, rest') ↔ rest' = '\x7d' :: rest ∧ Run R ms t u := by
      rw [hmore]
      exact ih rfl (opens_comma hd) (by omega)
    simp only [List.append_assoc, List.cons_append]
    rw [members_cons_iff hstep hlead ha hk hb hc hv (ends_comma hd _), run_cons_iff]
    simp only [hread]
    constructor
    · rintro ⟨key, t, hkey, hR, rfl, hrun⟩
      exact ⟨rfl, key, t, hkey, hR, hrun⟩
    · rintro ⟨rfl, key, t, hkey, hR, hrun⟩
      exact ⟨key, t, hkey, hR, rfl, hrun⟩
  | _ => cases hp

/-- An object is read to its end if its members are taken and what they lead to is accepted. -/
theorem object_iff (hstep : ReadsMember step R) {u : List Char}
    {ms : List (List Char × List Char)} (h : Spells (.object ms) ('\x7b' :: u)) {α : Type} {s : σ}
    {finish : σ → Except Cause α} {x : α} {rest rest' : List Char} :
    object step s finish (u ++ rest) = .ok (x, rest') ↔
      rest' = rest ∧ ∃ t, Run R ms s t ∧ finish t = .ok x := by
  have hread : ∀ {t : σ} {r : List Char},
      members step ((u ++ rest).length + 1) true s (u ++ rest) = .ok (t, r) ↔
        r = '\x7d' :: rest ∧ Run R ms s t := by
    intro t r
    cases h with
    | emptyObject ha =>
      rw [List.append_assoc, List.singleton_append, members_end _ true s ha, run_nil_iff]
      constructor
      · intro h
        cases h
        exact ⟨rfl, rfl⟩
      · rintro ⟨rfl, rfl⟩
        rfl
    | filledObject hs =>
      have hlength := hs.length_members_le
      rw [List.append_assoc]
      refine members_iff hstep hs opens_first ?_
      simp only [List.length_append]
      omega
  have hafter : afterBrace ('\x7d' :: rest) = rest := by
    simp only [afterBrace, skipBlanks_cons (show isBlank '\x7d' = false from rfl)]
  rw [object, bind_eq_ok_iff]
  constructor
  · rintro ⟨⟨t, r⟩, ht, h⟩
    obtain ⟨rfl, hrun⟩ := hread.1 ht
    dsimp only at h
    split at h
    · next hfinish =>
      cases h
      exact ⟨hafter, t, hrun, hfinish⟩
    · cases h
  · rintro ⟨rfl, t, hrun, hfinish⟩
    refine ⟨(t, '\x7d' :: rest'), hread.2 ⟨rfl, hrun⟩, ?_⟩
    simp only [hfinish, hafter]

end Steps

end DriverRegistration.Json
