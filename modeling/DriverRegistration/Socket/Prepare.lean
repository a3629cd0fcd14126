import DriverRegistration.Files.Tree
import DriverRegistration.Socket.Error

/-!
# Preparation of the registration socket

A socket that an earlier run left behind is removed, anything else at the path stays as it is, and a
new socket is created that only its owner can use.  The mask that keeps others out is one of the
whole process: `bindOwnerOnly` narrows it for one call and puts the previous one back, however the
call ends.

The calls of the system are given as `FileCalls`, so that any of them may fail.
-/

namespace DriverRegistration

/-- The calls of a file system that are needed, over states of type `σ`. -/
structure FileCalls (σ : Type) where
  /-- What is at a path, with links followed. -/
  stat : String → σ → Except SystemError FileNode
  /-- Take away the file at a path. -/
  remove : String → σ → Except SystemError Unit × σ
  /-- Create a socket at a path, under a mask. -/
  bind : Nat → String → σ → Except SystemError Unit × σ

/-- A tree of files as a file system. -/
def FileTree.calls : FileCalls FileTree := ⟨fun path t => t.stat path, unlink, bind⟩

/-- The state that a process sees: the files, and the mask for the files that it creates. -/
structure FileContext (σ : Type) where
  files : σ
  mask : Nat

/-- Put another mask in place.  Gives the previous one. -/
def FileContext.exchangeMask {σ : Type} (mask : Nat) (p : FileContext σ) : Nat × FileContext σ :=
  (p.mask, { p with mask })

namespace RegistrationSocket

variable {σ : Type}

/-- The mask that leaves permissions to the owner only. -/
def ownerOnly : Nat := 0o077

/-- Remove a socket that an earlier run left behind.  A free path is fine; anything else than a
socket stays. -/
def removeStale (calls : FileCalls σ) (path : String) (p : FileContext σ) :
    Except SocketError Unit × FileContext σ :=
  match calls.stat path p.files with
  | .error e => (if e = .noEntry then .ok () else .error (.stat path e), p)
  | .ok node =>
    if node.isSocket then
      let (result, files) := calls.remove path p.files
      (result.mapError (.remove path), { p with files })
    else (.error (.notASocket path), p)

/-- Create a socket that only its owner can use. -/
def bindOwnerOnly (calls : FileCalls σ) (path : String) (p : FileContext σ) :
    Except SocketError Unit × FileContext σ :=
  let (previous, p) := p.exchangeMask ownerOnly
  let (result, files) := calls.bind p.mask path p.files
  let (_, p) := { p with files }.exchangeMask previous
  (result.mapError (.bind path), p)

/-- Make way for a socket and create it. -/
def prepare (calls : FileCalls σ) (path : String) (p : FileContext σ) :
    Except SocketError Unit × FileContext σ :=
  match removeStale calls path p with
  | (.ok (), p) => bindOwnerOnly calls path p
  | (.error e, p) => (.error e, p)

end RegistrationSocket

end DriverRegistration
