import SstCam.Storage.RawCaptureNaming

/-!
# Directory trees

What the download server sees of the file system: a tree in the order in which its directories are
read, and `std::filesystem`'s walk over it and split of a name. A walk enters every directory it
comes to, and ends at one that it cannot open.
-/

namespace SstCam
set_option autoImplicit false

/-- A path below the root of the walk, as its names. -/
abbrev Path := List (List Char)

/-- A file carries the answers to the questions for its size and for the time of its last write. -/
inductive FileNode where
  | regular (name : List Char) (sizeBytes lastWriteUnix : Nat)
  | other (name : List Char)
  | unreadable (name : List Char)
  | directory (name : List Char) (children : List FileNode)

structure DirectoryEntry where
  path : Path
  isRegularFile : Bool := false
  sizeBytes : Nat := 0
  lastWriteUnix : Nat := 0
  deriving DecidableEq, Repr

mutual

/-- The entries that a walk comes to at a node, and whether it goes on behind it. -/
def FileNode.walk (parent : Path) : FileNode → List DirectoryEntry × Bool
  | .regular name sizeBytes lastWriteUnix =>
    ([{ path := parent ++ [name], isRegularFile := true, sizeBytes, lastWriteUnix }], true)
  | .other name => ([{ path := parent ++ [name] }], true)
  | .unreadable name => ([{ path := parent ++ [name] }], false)
  | .directory name children =>
    match FileNode.walkAll (parent ++ [name]) children with
    | (entries, goesOn) => ({ path := parent ++ [name] } :: entries, goesOn)

def FileNode.walkAll (parent : Path) : List FileNode → List DirectoryEntry × Bool
  | [] => ([], true)
  | node :: nodes =>
    match node.walk parent with
    | (entries, false) => (entries, false)
    | (entries, true) =>
      match FileNode.walkAll parent nodes with
      | (later, goesOn) => (entries ++ later, goesOn)

end

/-- The entries that a walk from the root comes to; the root may not be there. -/
def recursiveDirectory : Option (List FileNode) → List DirectoryEntry
  | none => []
  | some nodes => (FileNode.walkAll [] nodes).1

/-- Where the extension of a name begins: at its last dot, unless that is its first character. -/
def extensionPos (name : List Char) : Option Nat :=
  if name = ['.', '.'] then none
  else
    match rfind name ['.'] with
    | none => none
    | some pos => if pos = 0 then none else some pos

def extension (name : List Char) : List Char :=
  match extensionPos name with
  | none => []
  | some pos => name.drop pos

def stem (name : List Char) : List Char :=
  match extensionPos name with
  | none => name
  | some pos => name.take pos

namespace DirectoryEntry

def fileName (e : DirectoryEntry) : List Char := e.path.getLast?.getD []

end DirectoryEntry

/-- A name with an extension has a stem. -/
theorem stem_ne_nil {name : List Char} (h : extension name ≠ []) : stem name ≠ [] := by
  unfold extension at h
  unfold stem
  cases found : extensionPos name with
  | none => simp [found] at h
  | some pos =>
    have positive : pos ≠ 0 := by
      unfold extensionPos at found
      repeat' split at found
      all_goals cases found
      assumption
    rw [found] at h
    simp only [ne_eq, List.drop_eq_nil_iff, Nat.not_le] at h
    simp only [ne_eq, List.take_eq_nil_iff, not_or]
    refine ⟨positive, ?_⟩
    rintro rfl
    cases h

end SstCam
