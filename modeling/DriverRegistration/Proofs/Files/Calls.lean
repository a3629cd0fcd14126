import DriverRegistration.Proofs.Files.Path
import DriverRegistration.Proofs.Files.Walk

/-!
# Calls on a tree of files

The calls that change a tree work on the entry of a path: the last of its names, at the place where
the others lead (`entry_eq_some_iff`).  A path at which a socket is found, and no link, has the
socket as its entry (`entry_of_stat`), so that taking it away clears this place and no other
(`unlink_socket`).  A socket is created only where there is nothing, and with the permissions that
the mask leaves (`bind_ok`), and where it is not, the tree is left as it was (`bind_error`).
-/

namespace DriverRegistration.FileTree

open Text FilePath

variable {t : FileTree} {path : String} {p : Place}

/-! ## The place and the entry of a path -/

theorem eq_of_admit? {parts : FilePath} (h : admit? path = .ok parts) :
    parts = .ofText path ∧ path ≠ "" := by
  unfold admit? at h
  split at h
  · cases h
  · split at h
    · cases h
    · next hne =>
      split at h
      · cases h
      · exact ⟨(Except.ok.inj h).symm, hne⟩

/-- The names of a path lead to where the path does, and to a directory where the path asks for
one. -/
theorem admit_of_place (h : t.place path = .ok p) :
    admit? path = .ok (.ofText path) ∧
      t.walk false linkLimit [] (ofText path).names = .ok p ∧
      ((ofText path).slashAtEnd = true → t.node? p = some .directory) := by
  unfold place at h
  cases hpath : admit? path with
  | error e =>
    rw [hpath] at h
    cases h
  | ok parts =>
    rw [hpath] at h
    obtain ⟨rfl, -⟩ := eq_of_admit? hpath
    replace h : t.walk false linkLimit [] (asked (ofText path)) = .ok p := h
    refine ⟨rfl, ?_⟩
    unfold asked at h
    split at h
    · obtain ⟨left, q, hwalk, hdot⟩ := exists_walk_concat h
      rw [walk_dot] at hdot
      split at hdot
      · cases hdot
      · next hnode =>
        obtain rfl := Except.ok.inj hdot
        exact ⟨hwalk, fun _ => Decidable.not_not.1 hnode⟩
    · next hslash => exact ⟨h, fun hend => absurd hend hslash⟩

theorem stat_eq_ok {node : FileNode} (h : t.stat path = .ok node) :
    ∃ p, t.place path = .ok p ∧ t.node? p = some node := by
  unfold stat at h
  cases hplace : t.place path with
  | error e =>
    rw [hplace] at h
    cases h
  | ok p =>
    rw [hplace] at h
    simp only [Bind.bind, Except.bind] at h
    split at h
    · next n hnode => exact ⟨p, rfl, hnode.trans (congrArg some (Except.ok.inj h))⟩
    · cases h

/-- An entry is a name in a directory. -/
theorem entry_eq_some_iff {parts : FilePath} :
    t.entry parts = .ok (some p) ↔
      ∃ r name, t.walk false linkLimit [] parts.names.dropLast = .ok r ∧
        parts.names.getLast? = some name ∧ t.node? r = some .directory ∧ isDots name = false ∧
        byteLength name.toList ≤ nameLimit ∧ p = r ++ [name] := by
  unfold entry
  constructor
  · intro h
    cases hwalk : t.walk false linkLimit [] parts.names.dropLast with
    | error e =>
      rw [hwalk] at h
      cases h
    | ok r =>
      rw [hwalk] at h
      cases hlast : parts.names.getLast? with
      | none =>
        rw [hlast] at h
        cases h
      | some name =>
        simp only [hlast, Bind.bind, Except.bind] at h
        split at h
        · cases h
        · next hnode =>
          split at h
          · cases h
          · next hdots =>
            split at h
            · cases h
            · next hlong =>
              exact ⟨r, name, rfl, rfl, Decidable.not_not.1 hnode, eq_false_of_ne_true hdots,
                Nat.not_lt.1 hlong, (Option.some.inj (Except.ok.inj h)).symm⟩
  · rintro ⟨r, name, hwalk, hlast, hnode, hdots, hlong, rfl⟩
    simp only [hwalk, hlast, Bind.bind, Except.bind]
    rw [if_neg (not_not_intro hnode), if_neg (by simp [hdots]), if_neg (Nat.not_lt.2 hlong)]
    rfl

/-- A path with one more name than that of a directory is the entry of this name at the place of the
directory. -/
theorem entry_of_place {directory name : String} (hplace : t.place directory = .ok p)
    (hnode : t.node? p = some .directory)
    (hnames : (ofText path).names = (ofText directory).names ++ [name])
    (hdots : isDots name = false) (hlength : byteLength name.toList ≤ nameLimit) :
    t.entry (.ofText path) = .ok (some (p ++ [name])) := by
  refine entry_eq_some_iff.2 ⟨p, name, ?_, ?_, hnode, hdots, hlength, rfl⟩
  · rw [hnames, List.dropLast_concat]
    exact (admit_of_place hplace).2.1
  · rw [hnames, List.getLast?_concat]

/-- An entry stays where it is when the socket at it is taken away. -/
theorem entry_clear {parts : FilePath} {mode : Nat} (h : t.entry parts = .ok (some p))
    (hnode : t.node? p = some (.socket mode)) : (t.clear p).entry parts = .ok (some p) := by
  obtain ⟨r, name, hwalk, hlast, hr, hdots, hlong, rfl⟩ := entry_eq_some_iff.1 h
  refine entry_eq_some_iff.2 ⟨r, name, walk_clear hnode hwalk hr, hlast, ?_, hdots, hlong, rfl⟩
  rw [node?_clear, if_neg (by simp), hr]

/-! ## Looking -/

theorem lstat_of_entry (hparts : admit? path = .ok (.ofText path))
    (hslash : (ofText path).slashAtEnd = false) (hentry : t.entry (.ofText path) = .ok (some p)) :
    t.lstat path =
      match t.node? p with
      | some node => .ok node
      | none => .error .noEntry := by
  simp only [lstat, hparts, hentry, hslash, Bind.bind, Except.bind, Bool.false_eq_true, if_false]
  rfl

/-- Where a socket is found at a path, and no link is, the socket is the entry of the path. -/
theorem entry_of_stat {mode : Nat} (h : t.stat path = .ok (.socket mode))
    (hlink : ∀ target, t.lstat path ≠ .ok (.link target)) :
    admit? path = .ok (.ofText path) ∧ (ofText path).slashAtEnd = false ∧
      ∃ p, t.entry (.ofText path) = .ok (some p) ∧ t.node? p = some (.socket mode) := by
  obtain ⟨q, hplace, hq⟩ := stat_eq_ok h
  obtain ⟨hparts, hwalk, hdirectory⟩ := admit_of_place hplace
  have hnot : t.node? q ≠ some .directory := by simp [hq]
  have hslash : (ofText path).slashAtEnd = false :=
    eq_false_of_ne_true fun hend => hnot (hdirectory hend)
  have hnames : (ofText path).names ≠ [] := names_ne_nil (eq_of_admit? hparts).2 hslash
  have hconcat := (List.dropLast_concat_getLast hnames).symm
  rw [hconcat] at hwalk
  obtain ⟨left, r, hr, hlast⟩ := exists_walk_concat hwalk
  obtain ⟨hnode, hdots, hlong, hq'⟩ := last_of_walk (reached_of_walk (reached_root t) hr) hlast hnot
  have hentry : t.entry (.ofText path) = .ok (some (r ++ [(ofText path).names.getLast hnames])) :=
    entry_eq_some_iff.2 ⟨r, _, hr, List.getLast?_eq_some_getLast hnames, hnode, hdots, hlong, rfl⟩
  obtain rfl | ⟨target, htarget⟩ := hq'
  · exact ⟨hparts, hslash, _, hentry, hq⟩
  · have hlstat := lstat_of_entry hparts hslash hentry
    rw [htarget] at hlstat
    exact absurd hlstat (hlink target)

/-! ## Changing -/

/-- The socket that is found at a path is taken away, and nothing else. -/
theorem unlink_socket {mode : Nat} (hparts : admit? path = .ok (.ofText path))
    (hslash : (ofText path).slashAtEnd = false) (hentry : t.entry (.ofText path) = .ok (some p))
    (hnode : t.node? p = some (.socket mode)) : unlink path t = (.ok (), t.clear p) := by
  simp only [unlink, hparts, hentry, hnode, hslash, Bind.bind, Except.bind, Bool.false_eq_true,
    if_false]

/-- The place of something new is the entry of its path, at which there is nothing. -/
theorem vacancy_eq_ok (h : t.vacancy false path = .ok p) :
    t.entry (.ofText path) = .ok (some p) ∧ t.lstat path = .error .noEntry := by
  unfold vacancy at h
  cases hparts : admit? path with
  | error e =>
    rw [hparts] at h
    cases h
  | ok parts =>
    obtain ⟨rfl, -⟩ := eq_of_admit? hparts
    cases hentry : t.entry (.ofText path) with
    | error e =>
      simp only [hparts, hentry, Bind.bind, Except.bind] at h
      cases h
    | ok place =>
      simp only [hparts, hentry, Bind.bind, Except.bind] at h
      cases place with
      | none => cases h
      | some q =>
        simp only at h
        split at h
        · cases h
        · next hfree =>
          split at h
          · cases h
          · next hslash =>
            obtain rfl := Except.ok.inj h
            have hslash : (ofText path).slashAtEnd = false := by simpa using hslash
            have hlstat := lstat_of_entry hparts hslash hentry
            rw [Option.not_isSome_iff_eq_none.1 hfree] at hlstat
            exact ⟨rfl, hlstat⟩

/-- A socket is created at the entry of its path, where there is nothing. -/
theorem bind_ok {mask : Nat} {t' : FileTree} (h : bind mask path t = (.ok (), t')) :
    t.lstat path = .error .noEntry ∧ ∃ p, t.entry (.ofText path) = .ok (some p) ∧
      t' = t.put p (.socket (fullMode - (fullMode &&& mask))) := by
  unfold bind at h
  split at h
  · cases congrArg Prod.fst h
  · split at h
    · cases congrArg Prod.fst h
    · split at h
      · next p hvacancy =>
        obtain ⟨hentry, hlstat⟩ := vacancy_eq_ok hvacancy
        exact ⟨hlstat, p, hentry, (congrArg Prod.snd h).symm⟩
      · cases congrArg Prod.fst h

theorem bind_error {mask : Nat} {t' : FileTree} {e : SystemError}
    (h : bind mask path t = (.error e, t')) : t' = t := by
  unfold bind at h
  split at h
  · exact (congrArg Prod.snd h).symm
  · split at h
    · exact (congrArg Prod.snd h).symm
    · split at h
      · cases congrArg Prod.fst h
      · exact (congrArg Prod.snd h).symm

end DriverRegistration.FileTree
