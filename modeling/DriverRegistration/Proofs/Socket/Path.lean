import DriverRegistration.Identity.Fetch
import DriverRegistration.Proofs.Files.Calls
import DriverRegistration.Socket.Path

/-!
# Where registration sockets lie

A path that does not start at the root, seen from a directory, has the names of the directory and
then its own (`names_join`).  So the socket of a driver without a slash in its name is an entry of
the directory, and drivers of different names have different sockets; in a tree of files it is the
entry of this name at the place where the directory is found (`registration_in_directory`).

A name with a slash in it leads elsewhere: one that begins with a slash replaces the directory, and
may so be given the socket of another driver (`registration_of_rooted`).
-/

namespace DriverRegistration

namespace FilePath

/-! ## Which paths are the same -/

/-- What tells a path from others: whether it starts at the root, and the names that it leads
through.  A dot stands for no step, but it does mark a path that begins with it elsewhere than at
the root. -/
def components (p : FilePath) : Bool × List String :=
  (p.absolute,
    (if !p.absolute && p.names.head? = some "." then ["."] else []) ++ p.names.filter (· ≠ "."))

/-- Two texts are the same path: they start at the same place and lead through the same names. -/
def Same (path other : String) : Prop := (ofText path).components = (ofText other).components

/-- A path is that of the entry of a name in a directory: it leads to the directory, and from there
to this name. -/
def IsEntry (directory name path : String) : Prop :=
  (ofText path).components =
    ((ofText directory).components.1, (ofText directory).components.2 ++ [name])

instance (path other : String) : Decidable (Same path other) :=
  inferInstanceAs (Decidable (_ = _))

instance (directory name path : String) : Decidable (IsEntry directory name path) :=
  inferInstanceAs (Decidable (_ = _))

/-- A path with one more name, which is no dot, leads through one more name. -/
theorem isEntry_of_names {directory name path : String} (hname : name ≠ ".")
    (habsolute : (ofText path).absolute = (ofText directory).absolute)
    (hnames : (ofText path).names = (ofText directory).names ++ [name]) :
    IsEntry directory name path := by
  have hfirst : (ofText path).names.head? = some "." ↔
      (ofText directory).names.head? = some "." := by
    rw [hnames]
    cases (ofText directory).names with
    | nil => simpa using hname
    | cons first names => simp
  have hlast : [name].filter (· ≠ ".") = [name] := by simpa using hname
  simp only [IsEntry, components, habsolute, hfirst, List.append_assoc]
  rw [hnames, List.filter_append, hlast]

theorem slash_notMem_of_mem_components {name path : String}
    (h : name ∈ (ofText path).components.2) : '/' ∉ name.toList := by
  rcases List.mem_append.1 h with h | h
  · split at h
    · rw [List.mem_singleton.1 h]
      decide
    · exact absurd h List.not_mem_nil
  · exact slash_notMem_of_mem_namesOf (List.mem_filter.1 h).1

theorem IsEntry.slash_notMem {directory name path : String} (h : IsEntry directory name path) :
    '/' ∉ name.toList := by
  have hname : name ∈ (ofText path).components.2 := by
    rw [h]
    exact List.mem_append_right _ List.mem_cons_self
  exact slash_notMem_of_mem_components hname

/-- One path is the entry of one name only. -/
theorem IsEntry.name_eq {directory name other path path' : String}
    (h : IsEntry directory name path) (h' : IsEntry directory other path')
    (hsame : Same path path') : name = other := by
  have hnames := congrArg Prod.snd (h.symm.trans (hsame.trans h'))
  exact List.singleton_inj.1 (List.append_cancel_left hnames)

end FilePath

/-! ## Paths of sockets -/

namespace SocketPath

open FilePath Text

variable {directory path driver other : String}

/-- A path is joined to a directory behind a slash, which the directory may bring itself. -/
theorem join_cases (directory : String) (hpath : isAbsolute path = false) :
    (directory = "" ∧ join directory path = path) ∨
      ∃ cs, (join directory path).toList = cs ++ '/' :: path.toList ∧ directory ≠ "" ∧
        (directory.toList = cs ∨ directory.toList = cs ++ ['/']) := by
  unfold join
  rw [if_neg (by simp [hpath])]
  by_cases hempty : directory = ""
  · refine .inl ⟨hempty, ?_⟩
    rw [hempty]
    exact String.empty_append
  · refine .inr ?_
    split
    · next h =>
      have hlast : directory.toList.getLast? = some '/' := by simpa [hempty] using h
      obtain ⟨cs, hcs⟩ := List.getLast?_eq_some_iff.1 hlast
      exact ⟨cs, by simp [hcs], hempty, .inr hcs⟩
    · exact ⟨directory.toList, by simp, hempty, .inl rfl⟩

/-- A joined path has the names of the directory and then its own. -/
theorem names_join (hpath : isAbsolute path = false) :
    (ofText (join directory path)).names = (ofText directory).names ++ (ofText path).names := by
  simp only [ofText]
  rcases join_cases directory hpath with ⟨rfl, hjoin⟩ | ⟨cs, hjoin, -, hcs | hcs⟩
  · rw [hjoin]
    rfl
  · rw [hjoin, hcs, namesOf_append_slash]
  · rw [hjoin, hcs, namesOf_append_slash, namesOf_append_slash, namesOf_nil, List.append_nil]

theorem absolute_join (hpath : isAbsolute path = false) :
    (ofText (join directory path)).absolute = (ofText directory).absolute := by
  have hhead (cs ds : List Char) : (cs ++ '/' :: ds).head? = (cs ++ ['/']).head? := by
    cases cs <;> rfl
  simp only [ofText]
  rcases join_cases directory hpath with ⟨rfl, hjoin⟩ | ⟨cs, hjoin, hne, hcs | hcs⟩
  · rw [hjoin]
    exact hpath
  · obtain ⟨c, ds, hds⟩ := List.exists_cons_of_ne_nil (l := directory.toList) (by simpa using hne)
    rw [hjoin, ← hcs, hds]
    rfl
  · rw [hjoin, hcs, hhead]

/-! ### Names without a slash -/

theorem toList_registrationEnding_ne_nil : registrationEnding.toList ≠ [] := by decide

theorem slash_mem_append_iff :
    '/' ∈ (driver ++ registrationEnding).toList ↔ '/' ∈ driver.toList := by
  rw [String.toList_append, List.mem_append]
  exact or_iff_left (by decide)

theorem isAbsolute_of_slash_notMem (h : '/' ∉ path.toList) : isAbsolute path = false := by
  simp only [isAbsolute, decide_eq_false_iff_not]
  intro hhead
  exact h (List.mem_of_head? hhead)

/-- No name of a socket is one of those that stand for a directory. -/
theorem isDots_append_registrationEnding (driver : String) :
    FileTree.isDots (driver ++ registrationEnding) = false := by
  have hlast : (driver ++ registrationEnding).toList.getLast? = some 'k' := by
    rw [String.toList_append, List.getLast?_append]
    rfl
  simp only [FileTree.isDots, Bool.or_eq_false_iff, decide_eq_false_iff_not]
  constructor
  · intro h
    rw [h] at hlast
    exact absurd hlast (by decide)
  · intro h
    rw [h] at hlast
    exact absurd hlast (by decide)

/-- The socket of a driver without a slash in its name is reached by one more name. -/
theorem names_registration (h : '/' ∉ driver.toList) :
    (ofText (registration directory driver)).names =
      (ofText directory).names ++ [driver ++ registrationEnding] := by
  have hname : '/' ∉ (driver ++ registrationEnding).toList := mt slash_mem_append_iff.1 h
  have hne : (driver ++ registrationEnding).toList ≠ [] := by
    rw [String.toList_append]
    exact List.append_ne_nil_of_right_ne_nil _ toList_registrationEnding_ne_nil
  rw [registration, names_join (isAbsolute_of_slash_notMem hname)]
  simp only [ofText, namesOf_of_slash_notMem hne hname, String.ofList_toList]

theorem isEntry_registration_iff :
    IsEntry directory (driver ++ registrationEnding) (registration directory driver) ↔
      '/' ∉ driver.toList := by
  constructor
  · intro h
    exact mt slash_mem_append_iff.2 h.slash_notMem
  · intro h
    have hdots := isDots_append_registrationEnding driver
    simp only [FileTree.isDots, Bool.or_eq_false_iff, decide_eq_false_iff_not] at hdots
    exact isEntry_of_names hdots.1
      (absolute_join (isAbsolute_of_slash_notMem (mt slash_mem_append_iff.1 h)))
      (names_registration h)

/-! ## The theorem -/

/-- The sockets of drivers without a slash in their names, and of no others, are entries of the
directory, each of them another one.  A name that begins with a slash is found without the
directory. -/
theorem registration_in_directory (directory driver : String) :
    (IsEntry directory (driver ++ registrationEnding) (registration directory driver) ↔
      '/' ∉ driver.toList) ∧
    (∀ other, '/' ∉ driver.toList → '/' ∉ other.toList → driver ≠ other →
      ¬ Same (registration directory driver) (registration directory other)) ∧
    (∀ (t : FileTree) (p : Place), '/' ∉ driver.toList →
      byteLength (driver ++ registrationEnding).toList ≤ FileTree.nameLimit →
      t.place directory = .ok p → t.node? p = some .directory →
      t.entry (.ofText (registration directory driver)) =
        .ok (some (p ++ [driver ++ registrationEnding]))) ∧
    (isAbsolute driver = true → registration directory driver = driver ++ registrationEnding) := by
  refine ⟨isEntry_registration_iff, ?different, ?place, ?rooted⟩
  case different =>
    intro other hdriver hother hne hsame
    have hname := (isEntry_registration_iff.2 hdriver).name_eq (isEntry_registration_iff.2 hother)
      hsame
    exact hne (String.append_left_inj registrationEnding |>.1 hname)
  case place =>
    intro t p hdriver hlength hplace hnode
    exact FileTree.entry_of_place hplace hnode (names_registration hdriver)
      (isDots_append_registrationEnding driver) hlength
  case rooted =>
    intro habsolute
    have hhead : isAbsolute (driver ++ registrationEnding) = true := by
      simp only [isAbsolute, decide_eq_true_eq] at habsolute ⊢
      rw [String.toList_append, List.head?_append, habsolute]
      rfl
    rw [registration, join, if_pos hhead]

/-- A tree in which the directory of the sockets is reached over a link. -/
def linkedTree : FileTree :=
  (FileTree.ofDirectories [[], ["run"], ["run", "sockets"]]).put ["sockets"] (.link "/run/sockets")

theorem place_linkedTree : linkedTree.place "/sockets/" = .ok ["run", "sockets"] := by
  have hpath : FileTree.admit? "/sockets/" = .ok ⟨true, ["sockets"], true⟩ := rfl
  have htarget : ofText "/run/sockets" = ⟨true, ["run", "sockets"], false⟩ := by decide
  simp [FileTree.place, hpath, FileTree.asked, FileTree.walk, linkedTree, FileTree.ofDirectories,
    FileTree.nameLimit, FileTree.linkLimit, Text.byteLength, Char.utf8Size, htarget, Bind.bind,
    Except.bind]

/-- The sockets of two drivers whose names differ in a dot. -/
theorem registration_in_directory_of_dotted :
    '/' ∉ "..".toList ∧ '/' ∉ ".".toList ∧
      registration "/sockets/" ".." = "/sockets/..-reg.sock" ∧
      ¬ Same (registration "/sockets/" "..") (registration "/sockets/" ".") ∧
      linkedTree.entry (.ofText (registration "/sockets/" "..")) =
        .ok (some ["run", "sockets", "..-reg.sock"]) := by
  obtain ⟨-, hdifferent, hplace, -⟩ := registration_in_directory "/sockets/" ".."
  refine ⟨by decide, by decide, by decide, hdifferent "." (by decide) (by decide) (by decide), ?_⟩
  exact hplace linkedTree ["run", "sockets"] (by decide) (by decide) place_linkedTree (by decide)

/-- A driver can say that its name begins with a slash.  Its socket is then found without the
directory, and may be that of a driver of another name. -/
theorem registration_of_rooted :
    (DriverIdentity.fetch DriverIdentity.callLimit ⟨.ok "/x", some 0⟩
      ⟨.ok "n", some 0⟩).1.toOption = some ⟨"/x", "n"⟩ ∧
    registration "/registration" "/x" = "/x-reg.sock" ∧
    ¬ IsEntry "/registration" ("/x" ++ registrationEnding) (registration "/registration" "/x") ∧
    registration "/registration" "/registration/a" = registration "/registration" "a" := by
  decide

end SocketPath

end DriverRegistration
