import DriverRegistration.Json.Members
import DriverRegistration.Proofs.Json.Documents

/-!
# Members that come once

Where the members of an object are collected in slots, each of which takes the value of one key and
only once, a slot is filled if and only if exactly one member has its key (`run_puts_iff`), wherever
it stands.
-/

namespace DriverRegistration.Json

/-! ## Keys -/

/-- The keys of all members stand for texts. -/
def Named (ms : List (List Char × List Char)) : Prop := ∀ m ∈ ms, ∃ key, Names m key

/-- No member has the key. -/
def Lacks (key : String) (ms : List (List Char × List Char)) : Prop := ∀ m ∈ ms, ¬ Names m key

/-- At least two members have the key. -/
def Repeats (key : String) (ms : List (List Char × List Char)) : Prop :=
  ∃ m m', [m, m'].Sublist ms ∧ Names m key ∧ Names m' key

/-- Exactly one member has the key, and `P` holds of its value. -/
def Once (key : String) (P : List Char → Prop) (ms : List (List Char × List Char)) : Prop :=
  ∃ m rest, ms.Perm (m :: rest) ∧ Names m key ∧ P m.2 ∧ Lacks key rest

theorem Names.not_names {m : List Char × List Char} {key key' : String} (h : Names m key)
    (hne : key ≠ key') : ¬ Names m key' :=
  fun h' => hne (h.unique h')

section Keys

variable {key : String} {P : List Char → Prop} {m : List Char × List Char}
  {ms ns : List (List Char × List Char)}

theorem named_cons_iff : Named (m :: ms) ↔ (∃ key, Names m key) ∧ Named ms := List.forall_mem_cons

theorem lacks_cons_iff : Lacks key (m :: ms) ↔ ¬ Names m key ∧ Lacks key ms :=
  List.forall_mem_cons

theorem Once.perm (h : Once key P ms) (hperm : ms.Perm ns) : Once key P ns := by
  obtain ⟨m, rest, hms, hname, hP, hrest⟩ := h
  exact ⟨m, rest, hperm.symm.trans hms, hname, hP, hrest⟩

/-- A member with the key is the only one if the others lack it. -/
theorem once_cons_iff_of_names (hname : Names m key) :
    Once key P (m :: ms) ↔ P m.2 ∧ Lacks key ms := by
  constructor
  · rintro ⟨n, rest, hperm, -, hP, hrest⟩
    rcases List.mem_cons.1 (hperm.subset List.mem_cons_self) with rfl | hmem
    · have hms : ms.Perm rest := hperm.cons_inv
      exact ⟨hP, fun n hn => hrest n (hms.subset hn)⟩
    · exact absurd hname (hrest m hmem)
  · rintro ⟨hP, hlacks⟩
    exact ⟨m, ms, .refl _, hname, hP, hlacks⟩

theorem once_cons_iff_of_not_names (hname : ¬ Names m key) :
    Once key P (m :: ms) ↔ Once key P ms := by
  constructor
  · rintro ⟨n, rest, hperm, hn, hP, hrest⟩
    rcases List.mem_cons.1 (hperm.subset List.mem_cons_self) with rfl | hmem
    · exact absurd hn hname
    · have hothers : (m :: ms).Perm (m :: n :: rest.erase m) :=
        (hperm.trans ((List.perm_cons_erase hmem).cons n)).trans (.swap m n _)
      exact ⟨n, rest.erase m, hothers.cons_inv, hn, hP,
        fun other hother => hrest other (List.mem_of_mem_erase hother)⟩
  · rintro ⟨n, rest, hperm, hn, hP, hrest⟩
    refine ⟨n, m :: rest, (hperm.cons m).trans (.swap n m rest), hn, hP, ?_⟩
    exact lacks_cons_iff.2 ⟨hname, hrest⟩

theorem not_once_of_lacks (h : Lacks key ms) : ¬ Once key P ms := by
  rintro ⟨m, rest, hperm, hname, -, -⟩
  exact h m (hperm.symm.subset List.mem_cons_self) hname

theorem not_once_of_repeats (h : Repeats key ms) : ¬ Once key P ms := by
  intro honce
  obtain ⟨m, m', hsub, hname, hname'⟩ := h
  obtain ⟨rest, hperm⟩ := hsub.exists_perm_append
  obtain ⟨-, hlacks⟩ := (once_cons_iff_of_names hname).1 (honce.perm hperm)
  exact (lacks_cons_iff.1 hlacks).1 hname'

/-! ## Parts -/

/-- Members in any order: one for each part, which is given by its key and by what holds of its
value, and others of other keys. -/
def Comprises (parts : List (String × (List Char → Prop)))
    (ms : List (List Char × List Char)) : Prop :=
  ∃ chosen others, ms.Perm (chosen ++ others) ∧
    List.Forall₂ (fun part m => Names m part.1 ∧ part.2 m.2) parts chosen ∧
    ∀ m ∈ others, ∃ key, Names m key ∧ key ∉ parts.map Prod.fst

theorem lacks_of_chosen {parts : List (String × (List Char → Prop))}
    {chosen : List (List Char × List Char)}
    (h : List.Forall₂ (fun part m => Names m part.1 ∧ part.2 m.2) parts chosen)
    (hkey : key ∉ parts.map Prod.fst) : Lacks key chosen := by
  induction h with
  | nil => nofun
  | @cons part m parts chosen hm _ ih =>
    rw [List.map_cons, List.mem_cons, not_or] at hkey
    exact lacks_cons_iff.2 ⟨hm.1.not_names (Ne.symm hkey.1), ih hkey.2⟩

/-- The first part is there if one member is it, the others lack its key, and comprise the rest. -/
theorem comprises_cons_iff {part : String × (List Char → Prop)}
    {parts : List (String × (List Char → Prop))} (hpart : part.1 ∉ parts.map Prod.fst) :
    Comprises (part :: parts) ms ↔ ∃ m rest, ms.Perm (m :: rest) ∧ Names m part.1 ∧ part.2 m.2 ∧
      Lacks part.1 rest ∧ Comprises parts rest := by
  constructor
  · rintro ⟨_, others, horder, hchosen, hothers⟩
    cases hchosen with
    | @cons _ m _ chosen hm hchosen =>
      refine ⟨m, chosen ++ others, horder, hm.1, hm.2, ?_, chosen, others, .refl _, hchosen, ?_⟩
      · refine List.forall_mem_append.2 ⟨lacks_of_chosen hchosen hpart, fun n hn => ?_⟩
        obtain ⟨key, hkey, hunknown⟩ := hothers n hn
        exact hkey.not_names fun heq => hunknown (heq ▸ List.mem_cons_self)
      · intro n hn
        obtain ⟨key, hkey, hunknown⟩ := hothers n hn
        exact ⟨key, hkey, fun hmem => hunknown (List.mem_cons_of_mem _ hmem)⟩
  · rintro ⟨m, rest, horder, hname, hP, hlacks, chosen, others, hrest, hchosen, hothers⟩
    refine ⟨m :: chosen, others, horder.trans (hrest.cons m), .cons ⟨hname, hP⟩ hchosen,
      fun n hn => ?_⟩
    obtain ⟨key, hkey, hunknown⟩ := hothers n hn
    refine ⟨key, hkey, fun hmem => ?_⟩
    rcases List.mem_cons.1 hmem with rfl | hmem
    · exact hlacks n (hrest.symm.subset (List.mem_append_right chosen hn)) hkey
    · exact hunknown hmem

/-- The parts are there if and only if each of their keys occurs once. -/
theorem comprises_iff {parts : List (String × (List Char → Prop))}
    (hparts : (parts.map Prod.fst).Nodup) :
    Comprises parts ms ↔ Named ms ∧ ∀ part ∈ parts, Once part.1 part.2 ms := by
  induction parts generalizing ms with
  | nil =>
    constructor
    · rintro ⟨_, others, horder, hnil, hothers⟩
      cases hnil
      refine ⟨fun m hm => ?_, nofun⟩
      obtain ⟨key, hkey, -⟩ := hothers m (horder.subset hm)
      exact ⟨key, hkey⟩
    · rintro ⟨hnamed, -⟩
      refine ⟨[], ms, .refl ms, .nil, fun m hm => ?_⟩
      obtain ⟨key, hkey⟩ := hnamed m hm
      exact ⟨key, hkey, List.not_mem_nil⟩
  | cons part parts ih =>
    rw [List.map_cons, List.nodup_cons] at hparts
    obtain ⟨hpart, hparts⟩ := hparts
    -- the member of the first part is none of the other parts, since the keys are different
    have hother {m : List Char × List Char} (hname : Names m part.1)
        {other : String × (List Char → Prop)} (hmem : other ∈ parts) : ¬ Names m other.1 :=
      hname.not_names fun heq => hpart (heq ▸ List.mem_map_of_mem hmem)
    rw [comprises_cons_iff hpart, List.forall_mem_cons]
    constructor
    · rintro ⟨m, rest, horder, hname, hP, hlacks, hrest⟩
      obtain ⟨hnamed, honce⟩ := (ih hparts).1 hrest
      refine ⟨fun n hn => ?_, ⟨m, rest, horder, hname, hP, hlacks⟩, fun other hmem => ?_⟩
      · exact named_cons_iff.2 ⟨⟨_, hname⟩, hnamed⟩ n (horder.subset hn)
      · refine Once.perm ?_ horder.symm
        exact (once_cons_iff_of_not_names (hother hname hmem)).2 (honce other hmem)
    · rintro ⟨hnamed, ⟨m, rest, horder, hname, hP, hlacks⟩, honce⟩
      refine ⟨m, rest, horder, hname, hP, hlacks,
        (ih hparts).2 ⟨fun n hn => ?_, fun other hmem => ?_⟩⟩
      · exact hnamed n (horder.symm.subset (List.mem_cons_of_mem m hn))
      · exact (once_cons_iff_of_not_names (hother hname hmem)).1 ((honce other hmem).perm horder)

end Keys

/-! ## Slots -/

section Slots

variable {α : Type} {P : List Char → α → Prop} {slot : String}

/-- What a member does to the slot of a key: one of this key fills it, once, and others leave it. -/
def Puts (slot : String) (P : List Char → α → Prop) (key : String) (v : List Char)
    (old new : Option α) : Prop :=
  if key = slot then old = none ∧ ∃ a, P v a ∧ new = some a else new = old

theorem onceOnly_iff {value : List Char → Except Fault (α × List Char)} (hvalue : Reads value P)
    (key : String) {met found : Option α} {b c v rest rest' : List Char} (hb : Blanks b)
    (hc : Blanks c) (hv : Spells .value v) (hrest : Ends rest) :
    onceOnly key met value (b ++ ':' :: (c ++ (v ++ rest))) = .ok (found, rest') ↔
      rest' = rest ∧ met = none ∧ ∃ a, P v a ∧ found = some a := by
  cases met with
  | some _ => exact ⟨nofun, fun ⟨_, h, _⟩ => nomatch h⟩
  | none =>
    have hread : onceOnly key none value (b ++ ':' :: (c ++ (v ++ rest))) =
        value (c ++ (v ++ rest)) >>= fun x => .ok (some x.1, x.2) := by
      rw [onceOnly, colon_append hb]
      rfl
    rw [hread, bind_eq_ok_iff]
    constructor
    · rintro ⟨⟨a, r⟩, ha, h⟩
      obtain ⟨rfl, hP⟩ := (hvalue hc hv hrest).1 ha
      cases h
      exact ⟨rfl, rfl, a, hP, rfl⟩
    · rintro ⟨rfl, -, a, hP, rfl⟩
      exact ⟨(a, rest'), (hvalue hc hv hrest).2 ⟨rfl, hP⟩, rfl⟩

theorem puts_self_iff {v : List Char} {old new : Option α} :
    Puts slot P slot v old new ↔ old = none ∧ ∃ a, P v a ∧ new = some a := by
  rw [Puts, if_pos rfl]

theorem puts_iff_of_ne {key : String} (h : key ≠ slot) {v : List Char} {old new : Option α} :
    Puts slot P key v old new ↔ new = old := by
  rw [Puts, if_neg h]

theorem required_eq_ok_iff {key : String} {met : Option α} {a : α} :
    required key met = .ok a ↔ met = some a := by
  cases met with
  | none => exact ⟨nofun, nofun⟩
  | some b =>
    exact ⟨fun h => congrArg some (Except.ok.inj h), fun h => congrArg _ (Option.some.inj h)⟩

/-- A filled slot stays as it is, and no further member may have its key. -/
theorem run_puts_some_iff {ms : List (List Char × List Char)} {a : α} {new : Option α} :
    Run (Puts slot P) ms (some a) new ↔ Named ms ∧ Lacks slot ms ∧ new = some a := by
  induction ms with
  | nil =>
    rw [run_nil_iff]
    exact ⟨fun h => ⟨nofun, nofun, h⟩, fun h => h.2.2⟩
  | cons m ms ih =>
    rw [run_cons_iff, named_cons_iff, lacks_cons_iff]
    constructor
    · rintro ⟨key, t, hk, hputs, hrun⟩
      by_cases hkey : key = slot
      · subst hkey
        cases (puts_self_iff.1 hputs).1
      · obtain rfl := (puts_iff_of_ne hkey).1 hputs
        obtain ⟨hnamed, hlacks, hnew⟩ := ih.1 hrun
        exact ⟨⟨⟨key, hk⟩, hnamed⟩, ⟨fun hslot => hkey (hk.unique hslot), hlacks⟩, hnew⟩
    · rintro ⟨⟨⟨key, hk⟩, hnamed⟩, ⟨hslot, hlacks⟩, hnew⟩
      have hkey : key ≠ slot := fun h => hslot (h ▸ hk)
      exact ⟨key, some a, hk, (puts_iff_of_ne hkey).2 rfl, ih.2 ⟨hnamed, hlacks, hnew⟩⟩

/-- An empty slot is filled if exactly one member has its key. -/
theorem run_puts_iff {ms : List (List Char × List Char)} {a : α} :
    Run (Puts slot P) ms none (some a) ↔ Named ms ∧ Once slot (P · a) ms := by
  induction ms with
  | nil =>
    rw [run_nil_iff]
    exact ⟨nofun, fun ⟨_, h⟩ => absurd h (not_once_of_lacks nofun)⟩
  | cons m ms ih =>
    rw [run_cons_iff, named_cons_iff]
    by_cases hslot : Names m slot
    · rw [once_cons_iff_of_names hslot]
      constructor
      · rintro ⟨key, t, hk, hputs, hrun⟩
        obtain rfl : key = slot := hk.unique hslot
        obtain ⟨-, a', hP, rfl⟩ := puts_self_iff.1 hputs
        obtain ⟨hnamed, hlacks, hnew⟩ := run_puts_some_iff.1 hrun
        cases hnew
        exact ⟨⟨⟨key, hk⟩, hnamed⟩, hP, hlacks⟩
      · rintro ⟨⟨-, hnamed⟩, hP, hlacks⟩
        exact ⟨slot, some a, hslot, puts_self_iff.2 ⟨rfl, a, hP, rfl⟩,
          run_puts_some_iff.2 ⟨hnamed, hlacks, rfl⟩⟩
    · rw [once_cons_iff_of_not_names hslot]
      constructor
      · rintro ⟨key, t, hk, hputs, hrun⟩
        have hkey : key ≠ slot := fun h => hslot (h ▸ hk)
        obtain rfl := (puts_iff_of_ne hkey).1 hputs
        obtain ⟨hnamed, honce⟩ := ih.1 hrun
        exact ⟨⟨⟨key, hk⟩, hnamed⟩, honce⟩
      · rintro ⟨⟨⟨key, hk⟩, hnamed⟩, honce⟩
        have hkey : key ≠ slot := fun h => hslot (h ▸ hk)
        exact ⟨key, none, hk, (puts_iff_of_ne hkey).2 rfl, ih.2 ⟨hnamed, honce⟩⟩

end Slots

/-! ## Lists of fixed length -/

section Values

variable {α : Type} {P : List Char → α → Prop} {value : List Char → Except Fault (α × List Char)}

theorem nextValue_append (hvalue : Reads value P) (expected : String) (count : Nat)
    {lead a v rest : List Char} {x : α} (hlead : OpensElement (count == 0) lead) (ha : Blanks a)
    (hv : Spells .value v) (hrest : Ends rest) (hP : P v x) :
    nextValue expected count value (lead ++ (a ++ (v ++ rest))) = .ok (x, rest) := by
  have hread : value ([] ++ (v ++ rest)) = .ok (x, rest) :=
    (hvalue blanks_nil hv hrest).2 ⟨rfl, hP⟩
  rw [nextValue, hlead ha hv]
  exact hread

/-- A value is read that is not the last one of the list. -/
theorem nextValue_element (hvalue : Reads value P) (expected : String) (count : Nat)
    {lead cs v w : List Char} {vs : List (List Char)} {x : α}
    (hlead : OpensElement (count == 0) lead) (h : Spells (.elements (v :: w :: vs)) cs) (hP : P v x)
    (rest : List Char) :
    ∃ lead' cs', OpensElement false lead' ∧ Spells (.elements (w :: vs)) cs' ∧
      nextValue expected count value (lead ++ (cs ++ ']' :: rest)) =
        .ok (x, lead' ++ (cs' ++ ']' :: rest)) := by
  cases h with
  | @element a _ b cs _ ha hv hb h =>
    refine ⟨b ++ [','], cs, opensElement_comma hb, h, ?_⟩
    simp only [List.append_assoc, List.cons_append, List.nil_append]
    exact nextValue_append hvalue expected count hlead ha hv (ends_comma hb _) hP

/-- The last value of the list is read. -/
theorem nextValue_lastElement (hvalue : Reads value P) (expected : String) (count : Nat)
    {lead cs v : List Char} {x : α} (hlead : OpensElement (count == 0) lead)
    (h : Spells (.elements [v]) cs) (hP : P v x) (rest : List Char) :
    ∃ b, Blanks b ∧
      nextValue expected count value (lead ++ (cs ++ ']' :: rest)) = .ok (x, b ++ ']' :: rest) := by
  cases h with
  | @lastElement a _ b ha hv hb =>
    refine ⟨b, hb, ?_⟩
    rw [List.append_assoc, List.append_assoc]
    exact nextValue_append hvalue expected count hlead ha hv (ends_bracket hb rest) hP
  | element _ _ _ h => cases h

end Values

theorem endOfList_append {b : List Char} (hb : Blanks b) (rest : List Char) :
    endOfList (b ++ ']' :: rest) = .ok rest := by
  simp only [endOfList, skipBlanks_append_cons hb (show isBlank ']' = false from rfl)]

end DriverRegistration.Json
