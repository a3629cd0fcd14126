import DriverRegistration.Files.Path
import DriverRegistration.Files.SystemError

/-!
# Trees of files

A `FileTree` says what is at each place, where a place is the list of names that leads to it from
the root through directories.  `FileTree.walk` finds the place of a path: it enters directories
only, follows symbolic links, a limited number of them, and refuses names that are too long.  The
calls on paths are those of the system: `stat`, `lstat`, `unlink`, `bind` and what is needed to
prepare a tree.
-/

namespace DriverRegistration

open Text

/-- What is at a place of a tree. -/
inductive FileNode where
  | directory
  | file (content : String)
  /-- A socket, with its permission bits. -/
  | socket (mode : Nat)
  | link (target : String)
  deriving DecidableEq, Repr

/-- Whether something is a socket. -/
def FileNode.isSocket : FileNode → Bool
  | socket _ => true
  | _ => false

/-- A place: the names that lead to it from the root. -/
abbrev Place := List String

/-- A tree of files: what is at each place. -/
structure FileTree where
  node? : Place → Option FileNode

namespace FileTree

/-- A tree with something put at a place. -/
def put (t : FileTree) (p : Place) (n : FileNode) : FileTree :=
  ⟨fun q => if q = p then some n else t.node? q⟩

/-- A tree with nothing at a place. -/
def clear (t : FileTree) (p : Place) : FileTree := ⟨fun q => if q = p then none else t.node? q⟩

@[simp] theorem node?_put (t : FileTree) (p q : Place) (n : FileNode) :
    (t.put p n).node? q = if q = p then some n else t.node? q := rfl

@[simp] theorem node?_clear (t : FileTree) (p q : Place) :
    (t.clear p).node? q = if q = p then none else t.node? q := rfl

/-- The tree of some directories. -/
def ofDirectories (ps : List Place) : FileTree :=
  ⟨fun q => if q ∈ ps then some .directory else none⟩

/-! ## Finding places -/

/-- The largest number of bytes of a name. -/
def nameLimit : Nat := 255

/-- The number of bytes from which on a path is too long. -/
def pathLimit : Nat := 4096

/-- How many symbolic links are followed on the way to a place. -/
def linkLimit : Nat := 40

/-- The names that a path asks for: a slash at its end asks for the directory itself. -/
def asked (p : FilePath) : List String := if p.slashAtEnd then p.names ++ ["."] else p.names

/-- The place of some names seen from a place.  Where `lastMayMiss` holds, there need not be
anything at the place itself. -/
def walk (t : FileTree) (lastMayMiss : Bool) :
    Nat → Place → List String → Except SystemError Place
  | _, p, [] => .ok p
  | links, p, name :: names =>
    if t.node? p ≠ some .directory then .error .notADirectory
    else if name = "." then walk t lastMayMiss links p names
    else if name = ".." then walk t lastMayMiss links p.dropLast names
    else if nameLimit < byteLength name.toList then .error .nameTooLong
    else
      match t.node? (p ++ [name]) with
      | none => if lastMayMiss && names.isEmpty then .ok (p ++ [name]) else .error .noEntry
      | some (.link target) =>
        match links with
        | 0 => .error .linkLoop
        | links + 1 =>
          let path := FilePath.ofText target
          walk t lastMayMiss links (if path.absolute then [] else p) (asked path ++ names)
      | some _ => walk t lastMayMiss links (p ++ [name]) names
termination_by links _ names => (links, names.length)

/-- Take a path apart for the system. -/
def admit? (path : String) : Except SystemError FilePath :=
  if path.toList.contains '\x00' then .error .nulInPath
  else if path = "" then .error .noEntry
  else if pathLimit ≤ byteLength path.toList then .error .nameTooLong
  else .ok (FilePath.ofText path)

/-- The place of a path, with all links followed. -/
def place (t : FileTree) (path : String) : Except SystemError Place := do
  walk t false linkLimit [] (asked (← admit? path))

/-- Whether a name is one of those that stand for a directory. -/
def isDots (name : String) : Bool := name = "." || name = ".."

/-- The place of the last name of a path, seen from where the names before it lead; nothing where
the path has no name of its own at its end. -/
def entry (t : FileTree) (path : FilePath) : Except SystemError (Option Place) := do
  let p ← walk t false linkLimit [] path.names.dropLast
  match path.names.getLast? with
  | none => return none
  | some name =>
    if t.node? p ≠ some .directory then .error .notADirectory
    else if isDots name then return none
    else if nameLimit < byteLength name.toList then .error .nameTooLong
    else return some (p ++ [name])

/-! ## Looking -/

/-- What is at a path, with all links followed. -/
def stat (t : FileTree) (path : String) : Except SystemError FileNode := do
  match t.node? (← t.place path) with
  | some n => return n
  | none => .error .noEntry

/-- What is at a path, with a link at its end not followed. -/
def lstat (t : FileTree) (path : String) : Except SystemError FileNode := do
  let parts ← admit? path
  if parts.slashAtEnd then t.stat path
  else
    match ← t.entry parts with
    | none => t.stat path
    | some p =>
      match t.node? p with
      | some n => return n
      | none => .error .noEntry

/-- The content of the file at a path. -/
def content (t : FileTree) (path : String) : Except SystemError String := do
  match ← t.stat path with
  | .file content => return content
  | .directory => .error .isADirectory
  | _ => .error .noDevice

/-! ## Changing -/

/-- Take away what is at a path, unless it is a directory. -/
def unlink (path : String) (t : FileTree) : Except SystemError Unit × FileTree :=
  match (do t.entry (← admit? path) : Except SystemError (Option Place)) with
  | .error e => (.error e, t)
  | .ok none => (.error .isADirectory, t)
  | .ok (some p) =>
    match t.node? p with
    | none => (.error .noEntry, t)
    | some .directory => (.error .isADirectory, t)
    | some _ =>
      if (FilePath.ofText path).slashAtEnd then (.error .notADirectory, t)
      else (.ok (), t.clear p)

/-- The place of something new: there must be nothing at it yet. -/
def vacancy (t : FileTree) (directory : Bool) (path : String) : Except SystemError Place := do
  let parts ← admit? path
  match ← t.entry parts with
  | none => .error .fileExists
  | some p =>
    if (t.node? p).isSome then .error .fileExists
    else if parts.slashAtEnd && !directory then .error .noEntry
    else return p

/-- The permission bits that a new file would have without a mask. -/
def fullMode : Nat := 0o777

/-- The largest number of bytes of the path of a socket. -/
def addressLimit : Nat := 107

/-- Create a socket at a path, where there must be nothing.  The bits of the mask are taken off its
permissions. -/
def bind (mask : Nat) (path : String) (t : FileTree) : Except SystemError Unit × FileTree :=
  if path.toList.contains '\x00' then (.error .nulInAddress, t)
  else if addressLimit < byteLength path.toList then (.error .addressTooLong, t)
  else
    match t.vacancy false path with
    | .ok p => (.ok (), t.put p (.socket (fullMode - (fullMode &&& mask))))
    | .error e => (.error (if e = .fileExists then .addressInUse else e), t)

/-! ## Preparing a tree -/

/-- Create a link. -/
def symlink (target path : String) (t : FileTree) : Except SystemError Unit × FileTree :=
  if target.toList.contains '\x00' then (.error .nulInPath, t)
  else if target = "" then (.error .noEntry, t)
  else if pathLimit ≤ byteLength target.toList then (.error .nameTooLong, t)
  else
    match t.vacancy false path with
    | .ok p => (.ok (), t.put p (.link target))
    | .error e => (.error e, t)

/-- Create a directory. -/
def makeDirectory (path : String) (t : FileTree) : Except SystemError Unit × FileTree :=
  match t.vacancy true path with
  | .ok p => (.ok (), t.put p .directory)
  | .error e => (.error e, t)

/-- A path and the directories above it, from the path upwards and without the root; a dot in a
path names nothing of its own. -/
def upwards (path : String) : List String :=
  let parts := FilePath.ofText path
  let names := parts.names.filter (· ≠ ".")
  let start := if parts.absolute then "/" else ""
  let above := (List.range (names.length - 1)).map fun n =>
    start ++ "/".intercalate (names.take (n + 1))
  if names = [] then [] else path :: above.reverse

/-- Whether a directory is at a path. -/
def isDirectory (t : FileTree) (path : String) : Bool :=
  match t.stat path with
  | .ok node => node = .directory
  | .error _ => false

/-- Create a directory, unless there is one. -/
def ensureDirectory (path : String) (t : FileTree) : Except SystemError Unit × FileTree :=
  match t.makeDirectory path with
  | (.error e, t) =>
    if e = .fileExists && t.isDirectory path then (.ok (), t) else (.error e, t)
  | done => done

/-- Create the first of some directories, and before it the others as far as they miss. -/
def makeMissing : List String → FileTree → Except SystemError Unit × FileTree
  | [], t => (.ok (), t)
  | path :: above, t =>
    match t.ensureDirectory path with
    | (.ok (), t) => (.ok (), t)
    | (.error e, t) =>
      if e ≠ .noEntry then (.error e, t)
      else
        match makeMissing above t with
        | (.ok (), t) => t.ensureDirectory path
        | failed => failed

/-- Create a directory with those above it that miss. -/
def makeDirectories (path : String) (t : FileTree) : Except SystemError Unit × FileTree :=
  makeMissing (upwards path) t

/-- Write a file, over the content of one that is there; a link leads to where the file is put. -/
def writeFile (content path : String) (t : FileTree) : Except SystemError Unit × FileTree :=
  match (do walk t true linkLimit [] (asked (← admit? path)) : Except SystemError Place) with
  | .error e => (.error e, t)
  | .ok p =>
    match t.node? p with
    | none | some (.file _) => (.ok (), t.put p (.file content))
    | some .directory => (.error .isADirectory, t)
    | some _ => (.error .noDevice, t)

end FileTree

end DriverRegistration
