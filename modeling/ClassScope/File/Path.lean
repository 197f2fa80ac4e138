import ClassScope.Text.Quoted

/-!
# Paths

A path is a root, which is empty for a path from the working directory, and a list of parts. Empty
parts and single points say nothing and are dropped; two points lead one directory up and are kept,
since what they lead to depends on the files.
-/

namespace ClassScope

/-- A path. -/
structure Path where
  /-- Empty, or one slash, or two. -/
  root : Text
  /-- The parts. -/
  parts : List Text
  deriving DecidableEq, Repr

namespace Path

/-- The part that leads one directory up. -/
def up : Text := ['.', '.']

/-- The parts of a text between its slashes, without those that say nothing. -/
def partsOf (s : Text) : List Text :=
  (Text.splitBy (· == '/') s).filter fun part => part ≠ [] ∧ part ≠ ['.']

/-- The path that a text stands for. Exactly two slashes in front make a root of their own. -/
def ofText (s : Text) : Path :=
  let slashes := (s.takeWhile (· == '/')).length
  let root := if slashes = 0 then [] else if slashes = 2 then ['/', '/'] else ['/']
  ⟨root, partsOf s⟩

/-- The path of a text, seen from a directory. -/
def join (path : Path) (s : Text) : Path :=
  let other := ofText s
  if other.root = [] then ⟨path.root, path.parts ++ other.parts⟩ else other

/-- The path with more parts. -/
def extend (path : Path) (parts : List Text) : Path := ⟨path.root, path.parts ++ parts⟩

/-- The text of a path; the empty path is a single point. -/
def text (path : Path) : Text :=
  if path.root = [] ∧ path.parts = [] then ['.']
  else path.root ++ Text.join ['/'] path.parts

/-- The last part. -/
def name (path : Path) : Text := path.parts.getLastD []

/-- The suffix of a name: its last point with what follows, unless the point is the first or the
last character. -/
def suffixOf (name : Text) : Text :=
  let tail := (name.reverse.takeWhile (· ≠ '.')).reverse
  if tail.length + 1 < name.length ∧ tail ≠ [] then '.' :: tail else []

/-- The path whose last part has `ending` added, if there is a last part. -/
def addToName? (path : Path) (ending : Text) : Option Path :=
  match path.parts.getLast? with
  | none => none
  | some name => some ⟨path.root, path.parts.dropLast ++ [name ++ ending]⟩

end Path

end ClassScope
