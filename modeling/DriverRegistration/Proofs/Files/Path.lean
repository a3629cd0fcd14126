import DriverRegistration.Files.Path

/-!
# Names of paths

The names of a text with a slash in it are those before the slash and then those behind it
(`namesOf_append_slash`).  A text without a slash is one name, and only slashes have none.
-/

namespace DriverRegistration.FilePath

theorem splitSlashes_cons_slash (cs : List Char) :
    splitSlashes ('/' :: cs) = [] :: splitSlashes cs := by
  simp only [splitSlashes]
  split
  · next h => exact absurd h (splitSlashes_ne_nil cs)
  · next h => rw [h, if_pos trivial]

theorem splitSlashes_cons_of_ne {c : Char} (hc : c ≠ '/') {cs part : List Char}
    {parts : List (List Char)} (h : splitSlashes cs = part :: parts) :
    splitSlashes (c :: cs) = (c :: part) :: parts := by
  simp only [splitSlashes, h, if_neg hc]

theorem exists_splitSlashes (cs : List Char) : ∃ part parts, splitSlashes cs = part :: parts :=
  List.exists_cons_of_ne_nil (splitSlashes_ne_nil cs)

theorem splitSlashes_append_slash (cs ds : List Char) :
    splitSlashes (cs ++ '/' :: ds) = splitSlashes cs ++ splitSlashes ds := by
  induction cs with
  | nil => exact splitSlashes_cons_slash ds
  | cons c cs ih =>
    by_cases hc : c = '/'
    · rw [hc, List.cons_append, splitSlashes_cons_slash, splitSlashes_cons_slash, ih,
        List.cons_append]
    · obtain ⟨part, parts, h⟩ := exists_splitSlashes cs
      rw [h, List.cons_append] at ih
      rw [List.cons_append, splitSlashes_cons_of_ne hc ih, splitSlashes_cons_of_ne hc h,
        List.cons_append]

theorem splitSlashes_of_slash_notMem {cs : List Char} (h : '/' ∉ cs) : splitSlashes cs = [cs] := by
  induction cs with
  | nil => rfl
  | cons c cs ih =>
    rw [List.mem_cons, not_or] at h
    exact splitSlashes_cons_of_ne (Ne.symm h.1) (ih h.2)

@[simp] theorem namesOf_nil : namesOf [] = [] := rfl

theorem namesOf_append_slash (cs ds : List Char) :
    namesOf (cs ++ '/' :: ds) = namesOf cs ++ namesOf ds := by
  rw [namesOf, splitSlashes_append_slash, List.filter_append, List.map_append, namesOf, namesOf]

theorem namesOf_of_slash_notMem {cs : List Char} (hne : cs ≠ []) (h : '/' ∉ cs) :
    namesOf cs = [String.ofList cs] := by
  rw [namesOf, splitSlashes_of_slash_notMem h, List.filter_cons_of_pos (by simpa using hne),
    List.filter_nil, List.map_singleton]

theorem slash_notMem_of_mem_namesOf {name : String} {cs : List Char} (h : name ∈ namesOf cs) :
    '/' ∉ name.toList := by
  obtain ⟨part, hpart, rfl⟩ := List.mem_map.1 h
  rw [String.toList_ofList]
  exact slash_notMem_of_mem_splitSlashes (List.mem_filter.1 hpart).1

theorem namesOf_cons_slash (cs : List Char) : namesOf ('/' :: cs) = namesOf cs :=
  namesOf_append_slash [] cs

/-- Only slashes have no names. -/
theorem eq_slash_of_namesOf_eq_nil {cs : List Char} (h : namesOf cs = []) : ∀ c ∈ cs, c = '/' := by
  induction cs with
  | nil => exact nofun
  | cons c cs ih =>
    by_cases hc : c = '/'
    · subst hc
      rw [namesOf_cons_slash] at h
      exact List.forall_mem_cons.2 ⟨rfl, ih h⟩
    · obtain ⟨part, parts, hparts⟩ := exists_splitSlashes cs
      rw [namesOf, splitSlashes_cons_of_ne hc hparts, List.filter_cons_of_pos (by simp),
        List.map_cons] at h
      cases h

/-- A path that does not end with a slash has a name at its end. -/
theorem names_ne_nil {path : String} (hne : path ≠ "") (hslash : (ofText path).slashAtEnd = false) :
    (ofText path).names ≠ [] := by
  intro hnames
  obtain ⟨c, hc⟩ := Option.isSome_iff_exists.1
    (List.getLast?_isSome.2 (by simpa using hne : path.toList ≠ []))
  have hall := eq_slash_of_namesOf_eq_nil hnames c (List.mem_of_getLast? hc)
  simp only [ofText, hc, hall, decide_true, Bool.true_eq_false] at hslash

end DriverRegistration.FilePath
