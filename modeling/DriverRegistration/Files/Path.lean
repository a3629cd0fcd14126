import DriverRegistration.Text.Utf8

/-!
# Paths of files

A path is a list of names with slashes between them.  It starts at the root if it begins with a
slash, and it asks for a directory if it ends with one; slashes in a row count as one.
-/

namespace DriverRegistration

/-- A path, taken apart. -/
structure FilePath where
  absolute : Bool
  names : List String
  /-- Whether the path ends with a slash, and so asks for a directory. -/
  slashAtEnd : Bool
  deriving DecidableEq, Repr

namespace FilePath

/-- The parts of a text between slashes; two neighbouring slashes have an empty part between
them. -/
def splitSlashes : List Char → List (List Char)
  | [] => [[]]
  | c :: cs =>
    match splitSlashes cs with
    | [] => [[c]]
    | part :: parts => if c = '/' then [] :: part :: parts else (c :: part) :: parts

theorem splitSlashes_ne_nil (cs : List Char) : splitSlashes cs ≠ [] := by
  cases cs with
  | nil => simp [splitSlashes]
  | cons c cs =>
    simp only [splitSlashes]
    split
    · simp
    · split <;> simp

/-- No part holds a slash. -/
theorem slash_notMem_of_mem_splitSlashes {part : List Char} {cs : List Char}
    (h : part ∈ splitSlashes cs) : '/' ∉ part := by
  induction cs generalizing part with
  | nil => simp only [splitSlashes, List.mem_singleton] at h; simp [h]
  | cons c cs ih =>
    simp only [splitSlashes] at h
    split at h
    · next hs => exact absurd hs (splitSlashes_ne_nil cs)
    · next p ps hs =>
      rw [hs] at ih
      split at h
      · rcases List.mem_cons.1 h with rfl | h
        · simp
        · exact ih h
      · next hc =>
        rcases List.mem_cons.1 h with rfl | h
        · simpa [Ne.symm hc] using ih List.mem_cons_self
        · exact ih (List.mem_cons_of_mem _ h)

/-- The names in a path. -/
def namesOf (cs : List Char) : List String :=
  ((splitSlashes cs).filter (· ≠ [])).map String.ofList

/-- Take a path apart. -/
def ofText (path : String) : FilePath :=
  let cs := path.toList
  ⟨cs.head? = some '/', namesOf cs, cs.getLast? = some '/'⟩

/-- The path of the directory that a path lies in: empty for a single name. -/
def parent (path : String) : String :=
  let above := ((path.toList.reverse.dropWhile (· = '/')).dropWhile (· ≠ '/')).dropWhile (· = '/')
  if above = [] && path.toList.head? = some '/' then "/" else String.ofList above.reverse

/-- A path as it is seen from a directory. -/
def seenFrom (directory path : String) : String :=
  if path.toList.head? = some '/' || directory = "" then path
  else if directory.toList.getLast? = some '/' then directory ++ path
  else directory ++ "/" ++ path

end FilePath

end DriverRegistration
