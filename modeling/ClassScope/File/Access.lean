import ClassScope.File.Tree
import ClassScope.Text.Lines
import ClassScope.Text.Utf8

/-!
# Access to files

Paths are followed part by part, from the working directory or from the root of the system. Below
the working directory a file tree says what there is. Outside of it a few things stand everywhere:
the directories that the working directory lies in, some directories of the system, and the null
device, which reads as an empty file and keeps nothing. All else outside counts as missing.
-/

namespace ClassScope

/-! ## Faults -/

/-- Why a file cannot be used. -/
inductive FileFault where
  /-- Nothing stands there. -/
  | missing
  /-- A directory stands where a file should. -/
  | isDirectory
  /-- A file stands where a directory should. -/
  | notDirectory
  /-- A name on the way, or the path as a whole, has too many bytes. -/
  | nameTooLong
  /-- The path holds a null character. -/
  | nullCharacter
  deriving DecidableEq, Repr

/-- A fault with the path that was used. -/
structure FileError where
  /-- What is wrong. -/
  fault : FileFault
  /-- The path that was used. -/
  path : Path
  deriving DecidableEq, Repr

/-- The wording of an error: a fault that the system found has a number and names the path. -/
def FileError.message (e : FileError) : String :=
  let path := String.ofList (Text.quoted e.path.text)
  match e.fault with
  | .missing => "[Errno 2] No such file or directory: " ++ path
  | .isDirectory => "[Errno 21] Is a directory: " ++ path
  | .notDirectory => "[Errno 20] Not a directory: " ++ path
  | .nameTooLong => "[Errno 36] File name too long: " ++ path
  | .nullCharacter => "embedded null byte"

/-! ## Places -/

/-- Where a path leads. -/
inductive Place where
  /-- A location of the tree. -/
  | inside (location : Location)
  /-- Names from a directory that the working directory lies in. -/
  | above (names : List Text)
  /-- Names from the root of the system. -/
  | system (names : List Text)
  deriving DecidableEq, Repr

namespace Place

/-- The place that a path starts at. -/
def start (path : Path) : Place := if path.root = [] then inside [] else system []

/-- The directory that a place lies in; the root lies in itself. -/
def parent : Place → Place
  | inside [] => above []
  | inside location => inside location.dropLast
  | above names => above names.dropLast
  | system names => system names.dropLast

/-- The place with a name in the directory at this one. -/
def child (place : Place) (name : Text) : Place :=
  match place with
  | inside location => inside (location ++ [name])
  | above names => above (names ++ [name])
  | system names => system (names ++ [name])

/-- The directories that stand in the root of the system. -/
def systemNames : List Text :=
  ["bin", "boot", "dev", "etc", "home", "lib", "media", "mnt", "opt", "proc", "root", "run", "sbin",
    "srv", "sys", "tmp", "usr", "var"].map Text.of

/-- The null device. -/
def nullDevice : List Text := [Text.of "dev", Text.of "null"]

/-- What stands at names from the root of the system. -/
def systemEntry? (names : List Text) : Option FileEntry :=
  if names = nullDevice then some (.file [])
  else
    match names with
    | [] => some .directory
    | [name] => if systemNames.contains name then some .directory else none
    | _ => none

end Place

namespace FileTree

/-- What stands at a place. -/
def standing? (tree : FileTree) : Place → Option FileEntry
  | .inside location => tree.get? location
  | .above [] => some .directory
  | .above _ => none
  | .system names => Place.systemEntry? names

/-! ## Following paths -/

/-- The most bytes that a name may have. -/
def nameLimit : Nat := 255

/-- The most bytes that a path may have. -/
def pathLimit : Nat := 4095

/-- The place that one part of a path leads to from a place, where a directory has to stand. -/
def step (tree : FileTree) (place : Place) (part : Text) : Except FileFault Place :=
  match tree.standing? place with
  | none => .error .missing
  | some (.file _) => .error .notDirectory
  | some .directory =>
    if part = Path.up then .ok place.parent
    else if nameLimit < (Utf8.encode part).length then .error .nameTooLong
    else .ok (place.child part)

/-- The place that a path leads to. All parts but the last one have to lead to directories. -/
def locate (tree : FileTree) (path : Path) : Except FileFault Place :=
  if '\x00' ∈ path.text then .error .nullCharacter
  else if pathLimit < (Utf8.encode path.text).length then .error .nameTooLong
  else path.parts.foldlM tree.step (.start path)

/-- What stands at the end of a path. -/
def at? (tree : FileTree) (path : Path) : Except FileFault FileEntry := do
  match tree.standing? (← tree.locate path) with
  | some entry => .ok entry
  | none => .error .missing

/-- What stands at the end of a path, if anything does. Asking for a name that is too long is an
error; whatever else keeps a path from being followed, nothing stands at its end. -/
def look (tree : FileTree) (path : Path) : Except FileError (Option FileEntry) :=
  match tree.at? path with
  | .ok entry => .ok (some entry)
  | .error .nameTooLong => .error ⟨.nameTooLong, path⟩
  | .error _ => .ok none

/-- Something stands at the end of a path. -/
def has (tree : FileTree) (path : Path) : Except FileError Bool := Option.isSome <$> tree.look path

/-- A directory stands at the end of a path. -/
def hasDirectory (tree : FileTree) (path : Path) : Except FileError Bool :=
  (· == some .directory) <$> tree.look path

/-- Everything below the directory at the end of a path: the names that lead there from the
directory, with what stands there, in the order of the names. Directories may lie in each other to
any depth. Outside of the working directory nothing is listed. -/
def listing (tree : FileTree) (path : Path) : Except FileError (List (List Text × FileEntry)) :=
  match tree.locate path with
  | .ok (.inside location) => .ok (tree.below location)
  | .error .nameTooLong => .error ⟨.nameTooLong, path⟩
  | _ => .ok []

/-- Opens the directories among some things below the one at the end of a path. Each is opened at
its own path, so one whose path is too long is an error. -/
def openAll (tree : FileTree) (root : Path) : List (List Text × FileEntry) → Except FileError Unit
  | [] => .ok ()
  | (names, entry) :: items => do
    if entry = .directory then
      let _ ← tree.look (root.extend names)
    tree.openAll root items

/-- The names that lead to everything below the directory at the end of a path, in their order. All
directories there are opened on the way. -/
def search (tree : FileTree) (path : Path) : Except FileError (List (List Text)) := do
  let items ← tree.listing path
  tree.openAll path items
  return items.map Prod.fst

/-- The paths among some at whose ends files stand. Every path is asked for, so one that is too long
is an error even if no file is meant. -/
def filesAmong (tree : FileTree) : List Path → Except FileError (List Path)
  | [] => .ok []
  | path :: paths => do
    let entry ← tree.look path
    let rest ← tree.filesAmong paths
    return if entry.any FileEntry.isFile then path :: rest else rest

/-! ## Reading and writing -/

/-- The bytes of the file at the end of a path. -/
def read (tree : FileTree) (path : Path) : Except FileError (List UInt8) :=
  match tree.at? path with
  | .ok (.file bytes) => .ok bytes
  | .ok .directory => .error ⟨.isDirectory, path⟩
  | .error fault => .error ⟨fault, path⟩

/-- The text of the file at the end of a path, without the bytes that are not well-formed. -/
def readText (tree : FileTree) (path : Path) : Except FileError Text :=
  (fun bytes => Text.unifyLineEnds (Utf8.decodeLenient bytes)) <$> tree.read path

/-- The tree with new bytes in the file at the end of a path. The file is made if it is missing, the
directory it lies in is not. What is written outside of the working directory is not kept. -/
def write (tree : FileTree) (path : Path) (bytes : List UInt8) : Except FileError FileTree :=
  match tree.locate path with
  | .error fault => .error ⟨fault, path⟩
  | .ok place =>
    match tree.standing? place, place with
    | some .directory, _ => .error ⟨.isDirectory, path⟩
    | _, .inside location =>
      match tree.set? location (.file bytes) with
      | some tree => .ok tree
      | none => .error ⟨.missing, path⟩
    | _, _ => .ok tree

end FileTree

end ClassScope
