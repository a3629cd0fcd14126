import DriverRegistration.Files.Tree

/-!
# Walks through a tree of files

A walk over some names and more is a walk over the names first, which may use up links
(`walk_append`).  It enters directories only, so everything above a place that it leads to is a
directory (`Reached`), and it does not notice if a socket is taken away, unless it leads there
(`walk_clear`).
-/

namespace DriverRegistration.FileTree

variable {t : FileTree} {links : Nat} {p q : Place} {names : List String}

/-! ## Walks over more names -/

/-- A walk goes on from where its first names lead, with as many links as are left, or it fails as
they do. -/
theorem walk_append (t : FileTree) (links : Nat) (p : Place) (names more : List String) :
    (∃ left q, t.walk false links p names = .ok q ∧
      t.walk false links p (names ++ more) = t.walk false left q more) ∨
    ∃ e, t.walk false links p names = .error e ∧
      t.walk false links p (names ++ more) = .error e := by
  fun_induction walk t false links p names with
  | case1 links p => exact .inl ⟨links, p, rfl, rfl⟩
  | case2 links p name names hnode =>
    simp only [List.cons_append, walk, if_pos hnode]
    exact .inr ⟨_, rfl, rfl⟩
  | case3 links p names hnode ih =>
    simpa only [List.cons_append, walk, if_neg hnode, if_true] using ih
  | case4 links p names hnode hdot ih =>
    simpa only [List.cons_append, walk, if_neg hnode, if_neg hdot, if_true] using ih
  | case5 links p name names hnode hdot hup hlong =>
    simp only [List.cons_append, walk, if_neg hnode, if_neg hdot, if_neg hup, if_pos hlong]
    exact .inr ⟨_, rfl, rfl⟩
  -- a name may not miss here, not even the last one
  | case6 links p name names hnode hdot hup hlong hnone hlast => cases hlast
  | case7 links p name names hnode hdot hup hlong hnone hlast =>
    simp only [List.cons_append, walk, if_neg hnode, if_neg hdot, if_neg hup, if_neg hlong, hnone,
      Bool.false_and, Bool.false_eq_true, if_false]
    exact .inr ⟨_, rfl, rfl⟩
  | case8 p name names hnode hdot hup hlong target hlink =>
    simp only [List.cons_append, walk, if_neg hnode, if_neg hdot, if_neg hup, if_neg hlong, hlink]
    exact .inr ⟨_, rfl, rfl⟩
  | case9 p name names hnode hdot hup hlong target hlink links path ih =>
    -- the names of the link come before those that are left
    simp only [List.cons_append, walk, if_neg hnode, if_neg hdot, if_neg hup, if_neg hlong, hlink]
    rwa [List.append_assoc] at ih
  | case10 links p name names hnode hdot hup hlong node hnolink hnode' ih =>
    simpa only [List.cons_append, walk, if_neg hnode, if_neg hdot, if_neg hup, if_neg hlong, hnode']
      using ih

/-- A walk over one more name leads through where the others lead. -/
theorem exists_walk_concat {name : String} (h : t.walk false links p (names ++ [name]) = .ok q) :
    ∃ left r, t.walk false links p names = .ok r ∧ t.walk false left r [name] = .ok q := by
  obtain ⟨left, r, hnames, hmore⟩ | ⟨e, -, hmore⟩ := walk_append t links p names [name]
  · exact ⟨left, r, hnames, hmore.symm.trans h⟩
  · exact absurd (hmore.symm.trans h) nofun

/-- A dot asks for a directory. -/
theorem walk_dot (links : Nat) (p : Place) :
    t.walk false links p ["."] =
      if t.node? p ≠ some .directory then .error .notADirectory else .ok p := by
  simp only [walk, if_true]

/-! ## Directories on the way -/

/-- Everything above a place is a directory. -/
def Reached (t : FileTree) (p : Place) : Prop := ∀ r, r <+: p → r ≠ p → t.node? r = some .directory

theorem reached_root (t : FileTree) : t.Reached [] := fun _ hr hne =>
  absurd (List.prefix_nil.1 hr) hne

theorem Reached.concat {name : String} (h : t.Reached p) (hnode : t.node? p = some .directory) :
    t.Reached (p ++ [name]) := by
  intro r hr hne
  rcases List.prefix_concat_iff.1 hr with rfl | hr
  · exact absurd rfl hne
  · by_cases hp : r = p
    · exact hp ▸ hnode
    · exact h r hr hp

theorem Reached.dropLast (h : t.Reached p) : t.Reached p.dropLast := by
  intro r hr hne
  refine h r (hr.trans p.dropLast_prefix) ?_
  rintro rfl
  exact hne (hr.eq_of_length_le (by simp))

/-- The place above one that is a directory itself is one too. -/
theorem Reached.node?_dropLast (h : t.Reached p) (hnode : t.node? p = some .directory) :
    t.node? p.dropLast = some .directory := by
  by_cases hp : p.dropLast = p
  · rwa [hp]
  · exact h p.dropLast p.dropLast_prefix hp

theorem reached_of_walk (hp : t.Reached p) (h : t.walk false links p names = .ok q) :
    t.Reached q := by
  fun_induction walk t false links p names with
  | case1 links p => exact Except.ok.inj h ▸ hp
  | case2 => cases h
  | case3 links p names hnode ih => exact ih hp h
  | case4 links p names hnode hdot ih => exact ih hp.dropLast h
  | case5 => cases h
  | case6 links p name names hnode hdot hup hlong hnone hlast => cases hlast
  | case7 => cases h
  | case8 => cases h
  | case9 p name names hnode hdot hup hlong target hlink links path ih =>
    refine ih ?_ h
    split
    · exact reached_root t
    · exact hp
  | case10 links p name names hnode hdot hup hlong node hnolink hnode' ih =>
    exact ih (hp.concat (Decidable.not_not.1 hnode)) h

/-- What the last name of a walk leads to, if it leads to no directory: it is a name of its own in a
directory, and so is what it leads to, unless a link is there. -/
theorem last_of_walk {r : Place} {name : String} (hr : t.Reached r)
    (h : t.walk false links r [name] = .ok q) (hq : t.node? q ≠ some .directory) :
    t.node? r = some .directory ∧ isDots name = false ∧
      Text.byteLength name.toList ≤ nameLimit ∧
      (q = r ++ [name] ∨ ∃ target, t.node? (r ++ [name]) = some (.link target)) := by
  rw [walk] at h
  split at h
  · cases h
  next hnode =>
  have hdirectory := Decidable.not_not.1 hnode
  split at h
  · rw [walk] at h
    exact absurd (Except.ok.inj h ▸ hdirectory) hq
  next hdot =>
  split at h
  · rw [walk] at h
    exact absurd (Except.ok.inj h ▸ hr.node?_dropLast hdirectory) hq
  next hup =>
  split at h
  · cases h
  next hlong =>
  refine ⟨hdirectory, by simp [isDots, hdot, hup], Nat.not_lt.1 hlong, ?_⟩
  split at h
  · cases h
  · next target htarget => exact .inr ⟨target, htarget⟩
  · rw [walk] at h
    exact .inl (Except.ok.inj h).symm

/-! ## Walks past a socket -/

/-- From a place that is no directory a walk leads nowhere else. -/
theorem eq_of_walk (hnode : t.node? p ≠ some .directory)
    (h : t.walk false links p names = .ok q) : q = p := by
  cases names with
  | nil =>
    rw [walk] at h
    exact (Except.ok.inj h).symm
  | cons name names =>
    rw [walk, if_pos hnode] at h
    cases h

/-- A walk to a directory does not pass a socket, and so does not notice if it is taken away. -/
theorem walk_clear {s : Place} {mode : Nat} (hs : t.node? s = some (.socket mode))
    (h : t.walk false links p names = .ok q) (hq : t.node? q = some .directory) :
    (t.clear s).walk false links p names = .ok q := by
  have hkept (r : Place) (hne : r ≠ s) : (t.clear s).node? r = t.node? r := by
    rw [node?_clear, if_neg hne]
  have hdirectory (r : Place) (hnode : ¬ t.node? r ≠ some .directory) :
      (t.clear s).node? r = some .directory := by
    have hr := Decidable.not_not.1 hnode
    rw [hkept r, hr]
    rintro rfl
    exact absurd (hs.symm.trans hr) nofun
  fun_induction walk t false links p names with
  | case1 links p => rwa [walk]
  | case2 => cases h
  | case3 links p names hnode ih =>
    rw [walk, if_neg (not_not_intro (hdirectory p hnode)), if_pos rfl]
    exact ih h
  | case4 links p names hnode hdot ih =>
    rw [walk, if_neg (not_not_intro (hdirectory p hnode)), if_neg hdot, if_pos rfl]
    exact ih h
  | case5 => cases h
  | case6 links p name names hnode hdot hup hlong hnone hlast => cases hlast
  | case7 => cases h
  | case8 => cases h
  | case9 p name names hnode hdot hup hlong target hlink links path ih =>
    have hlink' : (t.clear s).node? (p ++ [name]) = some (.link target) := by
      rw [hkept, hlink]
      rintro rfl
      exact absurd (hs.symm.trans hlink) nofun
    rw [walk, if_neg (not_not_intro (hdirectory p hnode)), if_neg hdot, if_neg hup, if_neg hlong,
      hlink']
    exact ih h
  | case10 links p name names hnode hdot hup hlong node hnolink hnode' ih =>
    -- a walk to the socket ends at it, and so not at a directory
    have hpast : p ++ [name] ≠ s := by
      rintro rfl
      have hend := eq_of_walk (by simp [hs]) h
      exact absurd ((hend ▸ hq).symm.trans hs) nofun
    simp only [walk, if_neg (not_not_intro (hdirectory p hnode)), if_neg hdot, if_neg hup,
      if_neg hlong, hkept _ hpast, hnode']
    exact ih h

end DriverRegistration.FileTree
