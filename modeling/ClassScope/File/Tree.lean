import ClassScope.File.Path
import ClassScope.Table
import ClassScope.Text.Order

/-!
# File trees

The directories and files below the working directory. A tree knows what stands at each location;
locations are told apart, lie in directories, and have proper names.
-/

namespace ClassScope

/-- The place of a directory or file: the names that lead to it from the working directory. -/
abbrev Location := List Text

/-- What stands at a location. -/
inductive FileEntry where
  /-- A directory. -/
  | directory
  /-- A file with its bytes. -/
  | file (bytes : List UInt8)
  deriving DecidableEq, Repr

/-- The entry is a file. -/
def FileEntry.isFile : FileEntry → Bool
  | .directory => false
  | .file _ => true

/-- A name of a directory or file. -/
def IsFileName (name : Text) : Prop := name ≠ [] ∧ name ≠ ['.'] ∧ name ≠ Path.up

instance (name : Text) : Decidable (IsFileName name) :=
  inferInstanceAs (Decidable (name ≠ [] ∧ name ≠ ['.'] ∧ name ≠ Path.up))

/-- The directories and files below the working directory. -/
structure FileTree where
  /-- What stands at each location. -/
  entries : List (Location × FileEntry)
  /-- No location has two entries. -/
  nodup : (entries.map Prod.fst).Nodup
  /-- What an entry lies in is the working directory or a directory of the tree. -/
  closed : ∀ entry ∈ entries, entry.1.dropLast = [] ∨ (entry.1.dropLast, .directory) ∈ entries
  /-- The working directory has no entry, and the last part of a location is a name. -/
  named : ∀ entry ∈ entries, ∃ name, entry.1.getLast? = some name ∧ IsFileName name

namespace FileTree

/-- The tree without any entry. -/
def empty : FileTree where
  entries := []
  nodup := by simp
  closed := by simp
  named := by simp

/-- What stands at a location; the working directory is a directory. -/
def get? (tree : FileTree) (location : Location) : Option FileEntry :=
  if location = [] then some .directory else Table.get? tree.entries location

/-! ## Changes -/

/-- What stands at a location after an entry was put there is told apart, lies in a directory and
has a name, if the entry replaces a file or its location is new and lies in a directory. -/
def put (tree : FileTree) (location : Location) (entry : FileEntry)
    (hfree : (location, .directory) ∉ tree.entries)
    (hparent : location.dropLast = [] ∨ (location.dropLast, .directory) ∈ tree.entries)
    (hname : ∃ name, location.getLast? = some name ∧ IsFileName name) : FileTree where
  entries := Table.put location entry tree.entries
  nodup := Table.nodup_keys_put location entry tree.nodup
  closed := by
    have keep : ∀ {l : Location}, (l, FileEntry.directory) ∈ tree.entries →
        (l, FileEntry.directory) ∈ Table.put location entry tree.entries := by
      intro l hl
      apply Table.mem_put_of_ne hl
      rintro rfl
      exact hfree hl
    intro e he
    rcases Table.mem_put he with rfl | he
    · exact hparent.imp id keep
    · exact (tree.closed e he).imp id keep
  named := by
    intro e he
    rcases Table.mem_put he with rfl | he
    · exact hname
    · exact tree.named e he

/-- The tree with an entry at a location that lies in a directory and holds none itself. -/
def set? (tree : FileTree) (location : Location) (entry : FileEntry) : Option FileTree :=
  match h : location.getLast? with
  | none => none
  | some name =>
    if hname : IsFileName name then
      if hparent : location.dropLast = [] ∨ (location.dropLast, .directory) ∈ tree.entries then
        if hfree : (location, .directory) ∈ tree.entries then none
        else some (tree.put location entry hfree hparent ⟨name, h, hname⟩)
      else none
    else none

/-- The tree with directories at all locations on the way from `location` along some names, as far
as these are free. -/
def makeDirectories (tree : FileTree) (location : Location) : List Text → FileTree
  | [] => tree
  | name :: names =>
    let next := location ++ [name]
    let tree :=
      match tree.get? next with
      | none => (tree.set? next .directory).getD tree
      | some _ => tree
    tree.makeDirectories next names

/-- The tree with one more directory and those it lies in. -/
def addDirectory (tree : FileTree) (path : Path) : FileTree := tree.makeDirectories [] path.parts

/-- The tree with one more file and the directories it lies in. -/
def addFile (tree : FileTree) (path : Path) (bytes : List UInt8) : FileTree :=
  let tree := tree.makeDirectories [] path.parts.dropLast
  (tree.set? path.parts (.file bytes)).getD tree

/-! ## Listings -/

/-- What is left of a location below another one. -/
def below? : (location other : Location) → Option Location
  | [], rest => some rest
  | _ :: _, [] => none
  | a :: location, b :: rest => if a = b then below? location rest else none

/-- Everything below a location: the names that lead there from it, with what stands there, in the
order of the names. -/
def below (tree : FileTree) (location : Location) : List (List Text × FileEntry) :=
  let inside := tree.entries.filterMap fun (other, entry) =>
    match below? location other with
    | some (name :: names) => some (name :: names, entry)
    | _ => none
  Text.sortByParts Prod.fst inside

/-- All files with their bytes, by location. -/
def files (tree : FileTree) : List (Location × List UInt8) :=
  tree.entries.filterMap fun (location, entry) =>
    match entry with
    | .directory => none
    | .file bytes => some (location, bytes)

end FileTree

end ClassScope
