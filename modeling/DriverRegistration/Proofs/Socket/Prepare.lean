import DriverRegistration.Proofs.Files.Calls
import DriverRegistration.Socket.Prepare

/-!
# The registration socket is prepared without harm

The preparation has five exits, each with its own calls and its own result (`Exit`), whatever the
file system is like.  In a tree of files, where the system may refuse any call, a call changes at
most the entry of the path: a socket found there may be taken away, and a socket that only its owner
can use may be created where there is nothing.  The mask is the same before and after, at every exit
(`prepare_harmless`).
-/

namespace DriverRegistration

/-! ## Calls that are written down -/

/-- A call that may change files, and how it ended. -/
inductive FileCall where
  | remove (path : String) (result : Except SystemError Unit)
  | bind (mask : Nat) (path : String) (result : Except SystemError Unit)

/-- Calls that are written down. -/
def FileCalls.recorded {σ : Type} (calls : FileCalls σ) : FileCalls (σ × List FileCall) where
  stat path s := calls.stat path s.1
  remove path s :=
    let (result, files) := calls.remove path s.1
    (result, files, s.2 ++ [.remove path result])
  bind mask path s :=
    let (result, files) := calls.bind mask path s.1
    (result, files, s.2 ++ [.bind mask path result])

/-- What a system refuses, whatever the files are like: any of the calls, with any error. -/
structure Refusals where
  stat : Option SystemError := none
  remove : Option SystemError := none
  bind : Option SystemError := none

/-- The calls of a tree of files in a system that may refuse them, and does not carry out what it
refuses. -/
def FileTree.callsUnder (r : Refusals) : FileCalls FileTree where
  stat path t :=
    match r.stat with
    | some e => .error e
    | none => t.stat path
  remove path t :=
    match r.remove with
    | some e => (.error e, t)
    | none => unlink path t
  bind mask path t :=
    match r.bind with
    | some e => (.error e, t)
    | none => FileTree.bind mask path t

namespace RegistrationSocket

/-! ## The exits -/

/-- The exits of a preparation: with which result, which files are left and which calls were
made. -/
inductive Exit {σ : Type} (calls : FileCalls σ) (path : String) (s : σ) :
    Except SocketError Unit → σ → List FileCall → Prop
  /-- It is not known what is at the path. -/
  | unknown {e : SystemError} (hfound : calls.stat path s = .error e) (hentry : e ≠ .noEntry) :
    Exit calls path s (.error (.stat path e)) s []
  /-- Something other than a socket is there. -/
  | foreign {node : FileNode} (hfound : calls.stat path s = .ok node)
      (hnode : node.isSocket = false) :
    Exit calls path s (.error (.notASocket path)) s []
  /-- The socket there could not be removed. -/
  | stuck {mode : Nat} {e : SystemError} {s' : σ} (hfound : calls.stat path s = .ok (.socket mode))
      (hremove : calls.remove path s = (.error e, s')) :
    Exit calls path s (.error (.remove path e)) s' [.remove path (.error e)]
  /-- The socket there was removed, and a new one was created or not. -/
  | replaced {mode : Nat} {result : Except SystemError Unit} {s' s'' : σ}
      (hfound : calls.stat path s = .ok (.socket mode))
      (hremove : calls.remove path s = (.ok (), s'))
      (hbind : calls.bind ownerOnly path s' = (result, s'')) :
    Exit calls path s (result.mapError (.bind path)) s''
      [.remove path (.ok ()), .bind ownerOnly path result]
  /-- Nothing was there, and a socket was created or not. -/
  | fresh {result : Except SystemError Unit} {s' : σ}
      (hfound : calls.stat path s = .error .noEntry)
      (hbind : calls.bind ownerOnly path s = (result, s')) :
    Exit calls path s (result.mapError (.bind path)) s' [.bind ownerOnly path result]

section Steps

variable {σ : Type} {calls : FileCalls σ} {path : String} {p p' : FileContext σ} {s' : σ}

theorem removeStale_absent (h : calls.stat path p.files = .error .noEntry) :
    removeStale calls path p = (.ok (), p) := by
  simp only [removeStale, h, if_true]

theorem removeStale_unknown {e : SystemError} (h : calls.stat path p.files = .error e)
    (he : e ≠ .noEntry) : removeStale calls path p = (.error (.stat path e), p) := by
  simp only [removeStale, h, if_neg he]

theorem removeStale_foreign {node : FileNode} (h : calls.stat path p.files = .ok node)
    (hnode : node.isSocket = false) :
    removeStale calls path p = (.error (.notASocket path), p) := by
  simp only [removeStale, h, hnode, Bool.false_eq_true, if_false]

theorem removeStale_socket {mode : Nat} {result : Except SystemError Unit}
    (h : calls.stat path p.files = .ok (.socket mode))
    (hremove : calls.remove path p.files = (result, s')) :
    removeStale calls path p = (result.mapError (.remove path), { p with files := s' }) := by
  simp only [removeStale, h, hremove, FileNode.isSocket, if_true]

theorem bindOwnerOnly_eq {result : Except SystemError Unit}
    (h : calls.bind ownerOnly path p.files = (result, s')) :
    bindOwnerOnly calls path p = (result.mapError (.bind path), { p with files := s' }) := by
  simp only [bindOwnerOnly, FileContext.exchangeMask, h]

theorem prepare_of_error {e : SocketError} (h : removeStale calls path p = (.error e, p')) :
    prepare calls path p = (.error e, p') := by
  simp only [prepare, h]

theorem prepare_of_ok (h : removeStale calls path p = (.ok (), p')) :
    prepare calls path p = bindOwnerOnly calls path p' := by
  simp only [prepare, h]

theorem recorded_remove {s : σ} {log : List FileCall} {result : Except SystemError Unit}
    (h : calls.remove path s = (result, s')) :
    calls.recorded.remove path (s, log) = (result, s', log ++ [.remove path result]) := by
  simp only [FileCalls.recorded, h]

theorem recorded_bind {s : σ} {log : List FileCall} {mask : Nat} {result : Except SystemError Unit}
    (h : calls.bind mask path s = (result, s')) :
    calls.recorded.bind mask path (s, log) = (result, s', log ++ [.bind mask path result]) := by
  simp only [FileCalls.recorded, h]

end Steps

/-- A preparation takes one of the exits, and leaves the mask as it was at each of them. -/
theorem exit_prepare {σ : Type} (calls : FileCalls σ) (path : String) (s : σ) (mask : Nat) :
    let run := prepare calls.recorded path ⟨(s, []), mask⟩
    Exit calls path s run.1 run.2.files.1 run.2.files.2 ∧ run.2.mask = mask := by
  have hstat : calls.recorded.stat path (s, []) = calls.stat path s := rfl
  cases hfound : calls.stat path s with
  | error e =>
    rw [hfound] at hstat
    by_cases he : e = .noEntry
    · subst he
      rcases hbind : calls.bind ownerOnly path s with ⟨result, s'⟩
      rw [prepare_of_ok (removeStale_absent hstat), bindOwnerOnly_eq (recorded_bind hbind)]
      exact ⟨.fresh hfound hbind, rfl⟩
    · rw [prepare_of_error (removeStale_unknown hstat he)]
      exact ⟨.unknown hfound he, rfl⟩
  | ok node =>
    rw [hfound] at hstat
    cases node with
    | socket mode =>
      rcases hremove : calls.remove path s with ⟨result, s'⟩
      have hstale := removeStale_socket (p := ⟨(s, []), mask⟩) hstat (recorded_remove hremove)
      cases result with
      | error e =>
        rw [prepare_of_error hstale]
        exact ⟨.stuck hfound hremove, rfl⟩
      | ok done =>
        rcases hbind : calls.bind ownerOnly path s' with ⟨result, s''⟩
        rw [prepare_of_ok hstale, bindOwnerOnly_eq (recorded_bind hbind)]
        exact ⟨.replaced hfound hremove hbind, rfl⟩
    | directory | file | link =>
      rw [prepare_of_error (removeStale_foreign hstat rfl)]
      exact ⟨.foreign hfound rfl, rfl⟩

section Attempts

variable {σ : Type} {calls : FileCalls σ} {path : String} {s after : σ}
  {result : Except SocketError Unit} {attempts : List FileCall}

/-- A file is removed exactly if it is found to be a socket. -/
theorem Exit.removes_iff (h : Exit calls path s result after attempts) :
    (∃ r, .remove path r ∈ attempts) ↔ ∃ mode, calls.stat path s = .ok (.socket mode) := by
  cases h with
  | unknown hfound hentry => simp [hfound]
  | @foreign node hfound hnode =>
    refine iff_of_false (by simp) ?_
    rintro ⟨mode, hmode⟩
    obtain rfl := Except.ok.inj (hfound.symm.trans hmode)
    cases hnode
  | stuck hfound hremove => simp [hfound]
  | replaced hfound hremove hbind => simp [hfound]
  | fresh hfound hbind => simp [hfound]

/-- A socket is created exactly if nothing is found, or what was found is removed. -/
theorem Exit.binds_iff (h : Exit calls path s result after attempts) :
    (∃ r, .bind ownerOnly path r ∈ attempts) ↔
      calls.stat path s = .error .noEntry ∨ .remove path (.ok ()) ∈ attempts := by
  cases h with
  | unknown hfound hentry => simpa [hfound] using hentry
  | foreign hfound hnode => simp [hfound]
  | stuck hfound hremove => simp [hfound]
  | replaced hfound hremove hbind => simp
  | fresh hfound hbind => simp [hfound]

end Attempts

/-! ## A tree of files -/

section Tree

open FileTree

variable {refusals : Refusals} {t t' after : FileTree} {path : String} {mask mode : Nat}
  {result : Except SocketError Unit} {attempts : List FileCall}

theorem stat_of_callsUnder {node : FileNode} (h : (callsUnder refusals).stat path t = .ok node) :
    t.stat path = .ok node := by
  simp only [callsUnder] at h
  split at h
  · cases h
  · exact h

/-- A socket that is found is the entry of the path.  It can be removed, unless this is refused, and
then nothing changes. -/
theorem remove_callsUnder (hfound : (callsUnder refusals).stat path t = .ok (.socket mode))
    (hlink : ∀ target, t.lstat path ≠ .ok (.link target)) :
    ∃ p, t.entry (.ofText path) = .ok (some p) ∧ t.node? p = some (.socket mode) ∧
      t.lstat path = .ok (.socket mode) ∧
      (callsUnder refusals).remove path t =
        match refusals.remove with
        | some e => (.error e, t)
        | none => (.ok (), t.clear p) := by
  obtain ⟨hparts, hslash, p, hentry, hnode⟩ := entry_of_stat (stat_of_callsUnder hfound) hlink
  refine ⟨p, hentry, hnode, ?_, ?_⟩
  · rw [lstat_of_entry hparts hslash hentry, hnode]
  · simp only [callsUnder, unlink_socket hparts hslash hentry hnode]

/-- A call that creates a socket fails and changes nothing, or creates it where there is nothing. -/
theorem bind_callsUnder {result : Except SystemError Unit}
    (h : (callsUnder refusals).bind mask path t = (result, t')) :
    (∃ e, result = .error e ∧ t' = t) ∨
      result = .ok () ∧ t.lstat path = .error .noEntry ∧
        ∃ p, t.entry (.ofText path) = .ok (some p) ∧
          t' = t.put p (.socket (fullMode - (fullMode &&& mask))) := by
  simp only [callsUnder] at h
  split at h
  · exact .inl ⟨_, (congrArg Prod.fst h).symm, (congrArg Prod.snd h).symm⟩
  · cases result with
    | error e => exact .inl ⟨e, rfl, bind_error h⟩
    | ok done => exact .inr ⟨rfl, bind_ok h⟩

/-- What a preparation does to a tree: nothing, or something to the entry of the path, at which
there is a socket or nothing at all. -/
inductive Effect (t : FileTree) (path : String) (result : Except SocketError Unit) : FileTree → Prop
  | none (hresult : result ≠ .ok ()) : Effect t path result t
  | cleared {p : Place} {mode : Nat} (hentry : t.entry (.ofText path) = .ok (some p))
      (hnode : t.node? p = some (.socket mode)) (hlstat : t.lstat path = .ok (.socket mode))
      (hresult : result ≠ .ok ()) :
    Effect t path result (t.clear p)
  | replaced {p : Place} {mode : Nat} (hentry : t.entry (.ofText path) = .ok (some p))
      (hnode : t.node? p = some (.socket mode)) (hlstat : t.lstat path = .ok (.socket mode)) :
    Effect t path result ((t.clear p).put p (.socket (fullMode - (fullMode &&& ownerOnly))))
  | created {p : Place} (hentry : t.entry (.ofText path) = .ok (some p))
      (hlstat : t.lstat path = .error .noEntry) :
    Effect t path result (t.put p (.socket (fullMode - (fullMode &&& ownerOnly))))

theorem Exit.effect (h : Exit (callsUnder refusals) path t result after attempts)
    (hlink : ∀ target, t.lstat path ≠ .ok (.link target)) : Effect t path result after := by
  cases h with
  | unknown | foreign => exact .none nofun
  | stuck hfound hremove =>
    obtain ⟨p, hentry, hnode, hlstat, hcall⟩ := remove_callsUnder hfound hlink
    rw [hcall] at hremove
    split at hremove
    · cases hremove
      exact .none nofun
    · cases hremove
  | replaced hfound hremove hbind =>
    obtain ⟨p, hentry, hnode, hlstat, hcall⟩ := remove_callsUnder hfound hlink
    rw [hcall] at hremove
    split at hremove
    · cases hremove
    · cases hremove
      obtain ⟨e, rfl, rfl⟩ | ⟨rfl, -, q, hq, rfl⟩ := bind_callsUnder hbind
      · exact .cleared hentry hnode hlstat nofun
      · obtain rfl := Option.some.inj (Except.ok.inj (hq.symm.trans (entry_clear hentry hnode)))
        exact .replaced hentry hnode hlstat
  | fresh hfound hbind =>
    obtain ⟨e, rfl, rfl⟩ | ⟨rfl, hlstat, p, hentry, rfl⟩ := bind_callsUnder hbind
    · exact .none nofun
    · exact .created hentry hlstat

/-- No place but the entry of the path is changed. -/
theorem Effect.frame (h : Effect t path result after) (q : Place)
    (hq : t.entry (.ofText path) ≠ .ok (some q)) : after.node? q = t.node? q := by
  have hne {p : Place} (hentry : t.entry (.ofText path) = .ok (some p)) : q ≠ p := by
    rintro rfl
    exact hq hentry
  cases h with
  | none => rfl
  | cleared hentry => rw [node?_clear, if_neg (hne hentry)]
  | replaced hentry => rw [node?_put, if_neg (hne hentry), node?_clear, if_neg (hne hentry)]
  | created hentry => rw [node?_put, if_neg (hne hentry)]

/-- Something other than a socket at the path stays as it is. -/
theorem Effect.spares {node : FileNode} (h : Effect t path result after)
    (hnode : t.lstat path = .ok node) (hsocket : node.isSocket = false) : after = t := by
  cases h with
  | none => rfl
  | cleared _ _ hlstat =>
    obtain rfl := Except.ok.inj (hnode.symm.trans hlstat)
    cases hsocket
  | replaced _ _ hlstat =>
    obtain rfl := Except.ok.inj (hnode.symm.trans hlstat)
    cases hsocket
  | created _ hlstat => exact absurd (hnode.symm.trans hlstat) nofun

/-- A new socket is there at the end of a success, and only its owner can use it. -/
theorem Effect.owned (h : Effect t path result after) (hresult : result = .ok ()) :
    ∃ p mode, t.entry (.ofText path) = .ok (some p) ∧ after.node? p = some (.socket mode) ∧
      mode &&& 0o077 = 0 := by
  cases h with
  | none hfailed => exact absurd hresult hfailed
  | cleared _ _ _ hfailed => exact absurd hresult hfailed
  | @replaced p mode hentry => exact ⟨p, _, hentry, by rw [node?_put, if_pos rfl], by decide⟩
  | @created p hentry => exact ⟨p, _, hentry, by rw [node?_put, if_pos rfl], by decide⟩

/-- The socket that is found is the entry of the path, and it is removed, unless this is refused. -/
theorem Exit.removed (h : Exit (callsUnder refusals) path t result after attempts)
    (hlink : ∀ target, t.lstat path ≠ .ok (.link target))
    (hfound : (callsUnder refusals).stat path t = .ok (.socket mode)) :
    ∃ p, t.entry (.ofText path) = .ok (some p) ∧ t.node? p = some (.socket mode) ∧
      (refusals.remove = .none → .remove path (.ok ()) ∈ attempts) ∧
      (.remove path (.ok ()) ∈ attempts → result ≠ .ok () → after.node? p = .none) := by
  obtain ⟨p, hentry, hnode, -, hcall⟩ := remove_callsUnder hfound hlink
  refine ⟨p, hentry, hnode, ?_⟩
  cases h with
  | unknown hfound' => exact absurd (hfound.symm.trans hfound') nofun
  | fresh hfound' => exact absurd (hfound.symm.trans hfound') nofun
  | foreign hfound' hforeign =>
    obtain rfl := Except.ok.inj (hfound.symm.trans hfound')
    cases hforeign
  | stuck hfound' hremove =>
    refine ⟨fun hrefusal => ?_, by simp⟩
    rw [hcall, hrefusal] at hremove
    cases hremove
  | replaced hfound' hremove hbind =>
    refine ⟨fun _ => List.mem_cons_self, fun _ hresult => ?_⟩
    rw [hcall] at hremove
    split at hremove
    · cases hremove
    · cases hremove
      obtain ⟨e, rfl, rfl⟩ | ⟨rfl, -⟩ := bind_callsUnder hbind
      · rw [node?_clear, if_pos rfl]
      · exact absurd rfl hresult

end Tree

/-! ## The theorem -/

/-- The preparation of the registration socket does no harm, in any tree without a link at the path
and whatever the system refuses: it removes sockets only, touches no other place, and leaves the
mask as it was.  If it succeeds, nobody but its owner has permissions for the socket. -/
theorem prepare_harmless (refusals : Refusals) (t : FileTree) (path : String) (mask : Nat)
    (hlink : ∀ target, t.lstat path ≠ .ok (.link target)) :
    let calls := FileTree.callsUnder refusals
    let found := calls.stat path t
    let run := prepare calls.recorded path ⟨(t, []), mask⟩
    let result := run.1
    let after := run.2.files.1
    let attempts := run.2.files.2
    run.2.mask = mask ∧
    Exit calls path t result after attempts ∧
    ((∃ r, .remove path r ∈ attempts) ↔ ∃ mode, found = .ok (.socket mode)) ∧
    (∀ mode, found = .ok (.socket mode) →
      ∃ p, t.entry (.ofText path) = .ok (some p) ∧ t.node? p = some (.socket mode) ∧
        (refusals.remove = none → .remove path (.ok ()) ∈ attempts) ∧
        (.remove path (.ok ()) ∈ attempts → result ≠ .ok () → after.node? p = none)) ∧
    ((∃ r, .bind ownerOnly path r ∈ attempts) ↔
      found = .error .noEntry ∨ .remove path (.ok ()) ∈ attempts) ∧
    (∀ q, t.entry (.ofText path) ≠ .ok (some q) → after.node? q = t.node? q) ∧
    (∀ node, t.lstat path = .ok node → node.isSocket = false → after = t) ∧
    (result = .ok () → ∃ p mode, t.entry (.ofText path) = .ok (some p) ∧
      after.node? p = some (.socket mode) ∧ mode &&& 0o077 = 0) := by
  intro calls found run result after attempts
  obtain ⟨hexit, hmask⟩ := exit_prepare calls path t mask
  change Exit calls path t result after attempts at hexit
  have heffect : Effect t path result after := hexit.effect hlink
  exact ⟨hmask, hexit, hexit.removes_iff, fun _ hfound => hexit.removed hlink hfound,
    hexit.binds_iff, heffect.frame, fun _ hnode hsocket => heffect.spares hnode hsocket,
    heffect.owned⟩

/-- A tree in which a link leads to the directory of a socket that an earlier run left behind. -/
def staleTree : FileTree :=
  ((FileTree.ofDirectories [[], ["run"]]).put ["sockets"] (.link "/run")).put ["run", "d-reg.sock"]
    (.socket 0o755)

/-- The walk goes on behind the link. -/
theorem walk_staleTree (names : List String) :
    staleTree.walk false FileTree.linkLimit [] ("sockets" :: names) =
      staleTree.walk false (FileTree.linkLimit - 1) ["run"] names := by
  have htarget : FilePath.ofText "/run" = ⟨true, ["run"], false⟩ := by decide
  simp [FileTree.walk, FileTree.asked, htarget, staleTree, FileTree.ofDirectories,
    FileTree.nameLimit, FileTree.linkLimit, Text.byteLength, Char.utf8Size]

theorem entry_staleTree :
    staleTree.entry (.ofText "/sockets/d-reg.sock") = .ok (some ["run", "d-reg.sock"]) := by
  have hnames : (FilePath.ofText "/sockets/d-reg.sock").names = ["sockets", "d-reg.sock"] := by
    decide
  have hwalk : staleTree.walk false FileTree.linkLimit [] ["sockets"] = .ok ["run"] :=
    (walk_staleTree []).trans (by rw [FileTree.walk])
  simp only [FileTree.entry, hnames, List.dropLast_cons_cons, List.dropLast_singleton, hwalk,
    Bind.bind, Except.bind]
  rfl

theorem lstat_staleTree : staleTree.lstat "/sockets/d-reg.sock" = .ok (.socket 0o755) := by
  rw [FileTree.lstat_of_entry rfl rfl entry_staleTree]
  rfl

theorem stat_staleTree : staleTree.stat "/sockets/d-reg.sock" = .ok (.socket 0o755) := by
  have hparts : FileTree.admit? "/sockets/d-reg.sock" = .ok (.ofText "/sockets/d-reg.sock") := rfl
  have hasked : FileTree.asked (.ofText "/sockets/d-reg.sock") = ["sockets", "d-reg.sock"] := by
    decide
  have hplace : staleTree.place "/sockets/d-reg.sock" = .ok ["run", "d-reg.sock"] := by
    simp only [FileTree.place, hparts, hasked, Bind.bind, Except.bind, walk_staleTree]
    simp [FileTree.walk, staleTree, FileTree.ofDirectories, FileTree.nameLimit, Text.byteLength,
      Char.utf8Size]
  simp only [FileTree.stat, hplace, Bind.bind, Except.bind]
  rfl

/-- The socket behind the link is removed before the system refuses to create a new one; the link
and the mask stay. -/
theorem prepare_harmless_of_refused :
    let refusals : Refusals := { bind := some .notPermitted }
    let path := "/sockets/d-reg.sock"
    let run := prepare (FileTree.callsUnder refusals).recorded path ⟨(staleTree, []), 0o022⟩
    (∀ target, staleTree.lstat path ≠ .ok (.link target)) ∧
      run.2.mask = 0o022 ∧
      .remove path (.ok ()) ∈ run.2.files.2 ∧
      (∃ r, .bind ownerOnly path r ∈ run.2.files.2) ∧
      run.2.files.1.node? ["sockets"] = some (.link "/run") := by
  intro refusals path run
  have hlink (target : String) : staleTree.lstat path ≠ .ok (.link target) := by
    rw [lstat_staleTree]
    nofun
  obtain ⟨hmask, -, -, hremoved, hbinds, hframe, -⟩ :=
    prepare_harmless refusals staleTree path 0o022 hlink
  obtain ⟨-, -, -, hdone, -⟩ := hremoved 0o755 stat_staleTree
  refine ⟨hlink, hmask, hdone rfl, hbinds.2 (.inr (hdone rfl)), ?_⟩
  rw [hframe ["sockets"] (by simp [entry_staleTree, path])]
  rfl

end RegistrationSocket

end DriverRegistration
