import ClassScope.Build.EnvFile
import ClassScope.Build.Session
import ClassScope.Build.Settings
import ClassScope.Command.Options
import ClassScope.File.Access
import ClassScope.Html.Reader
import ClassScope.Json.Reader

/-!
# Jobs

A job is what a command does: it works on a file tree, prints lines, and may stop. What it has done
to the tree and printed before it stops stays done. This module holds the steps that commands share:
reading the configuration and the manifest, and writing files.
-/

namespace ClassScope.Command

/-- What went wrong in a job. -/
inductive Failure where
  /-- A file could not be used. -/
  | file (e : FileError)
  /-- The manifest has an entry with unusable names. -/
  | manifest (fault : Manifest.Fault)
  /-- The manifest cannot be read, for a reason that is no fault of its text. -/
  | document (fault : Json.Fault)
  /-- The bytes of a file are no text. -/
  | decoding (e : Utf8.Failure)
  /-- A text has no bytes. -/
  | encoding (e : Utf8.Unencodable)
  /-- A document cannot be read. -/
  | markup (e : Html.Rejection)
  /-- A setting that is given is none. -/
  | setting (fault : SettingFault)
  /-- A setting has a value that cannot be used. -/
  | value (e : Setting.Misuse)
  /-- A variable could not be set. -/
  | variable (fault : EnvFile.Fault)
  /-- A hook was called out of order. -/
  | order (e : OutOfOrder)
  /-- A path has no last part that could be changed. -/
  | noName (path : Path)
  deriving DecidableEq, Repr

/-- The wording of a failure. -/
def Failure.message : Failure → String
  | .file e => e.message
  | .manifest fault => fault.message
  | .document fault => fault.message
  | .decoding e => e.message
  | .encoding e => e.message
  | .markup e => e.message
  | .setting fault => fault.message
  | .value e => e.message
  | .variable fault => fault.message
  | .order e => e.message
  | .noName path => "PosixPath(" ++ String.ofList (Text.quoted path.text) ++ ") has an empty name"

/-- Why a job stops before its end. -/
inductive Stop where
  /-- The arguments make no sense. -/
  | usage (e : UsageError)
  /-- Help was asked for. -/
  | help
  /-- The job refuses to go on, with a message. -/
  | refused (message : Text)
  /-- Something went wrong. -/
  | failed (failure : Failure)
  deriving DecidableEq, Repr

/-- What a job works on. -/
structure Workspace where
  /-- The files. -/
  tree : FileTree
  /-- The lines printed so far. -/
  printed : List Text

/-- A piece of work on a workspace that may stop. -/
abbrev Job (α : Type) := ExceptT Stop (StateM Workspace) α

namespace Job

/-- Prints a line. -/
def print (line : Text) : Job Unit :=
  modify fun space => { space with printed := space.printed ++ [line] }

/-- The files as they are now. -/
def tree : Job FileTree := do return (← get).tree

/-- The result of a step, which may have failed. -/
def orFail {ε α : Type} (failure : ε → Failure) : Except ε α → Job α
  | .ok a => pure a
  | .error e => throw (.failed (failure e))

/-- Something stands at the end of a path. -/
def has (path : Path) : Job Bool := do orFail .file ((← tree).has path)

/-- Writes bytes into the file at the end of a path. -/
def writeBytes (path : Path) (bytes : List UInt8) : Job Unit := do
  let tree ← orFail .file ((← tree).write path bytes)
  modify fun space => { space with tree }

/-- Writes a text into the file at the end of a path. A text without bytes leaves the file empty,
since the file is opened before. -/
def writeFile (path : Path) (s : WideText) : Job Unit := do
  match Utf8.encodeWide s with
  | .ok bytes => writeBytes path bytes
  | .error e =>
    writeBytes path []
    throw (.failed (.encoding e))

/-- Writes `new` over `old` if they differ, and says whether it did. With `backup` the old text is
kept beside the file under a name that ends in `.bak`, unless something has that name already. -/
def writeChanged (path : Path) (new : WideText) (old : Text) (backup : Bool) : Job Bool := do
  if new = .ofText old then return false
  if backup then
    match path.addToName? (Text.of ".bak") with
    | none => throw (.failed (.noName path))
    | some spare =>
      if !(← has spare) then writeFile spare (.ofText old)
  writeFile path new
  return true

end Job

/-! ## Configuration -/

/-- The path that a text stands for; an empty text stands for none. -/
def path? (s : Option Text) : Option Path :=
  match s with
  | none | some [] => none
  | some s => some (.ofText s)

/-- A text leads to no file as it is written: it asks for a directory by ending in a slash or in a
single point behind one, or it has too many bytes. The path of the text does not show either. -/
def leadsToNoFile (s : Text) : Bool :=
  Text.endsWith ['/'] s || Text.endsWith ['/', '.'] s ||
    FileTree.pathLimit < (Utf8.encode s).length

/-- The environment with the variables of a file. Without a file at the end of the path there are
none, and none are read where the environment keeps such files from being read. -/
def readEnvironment (environment : Environment) (envFile : Option Text) : Job Environment := do
  match envFile, path? envFile with
  | some s, some path =>
    if EnvFile.isSwitchedOff environment then return environment
    else
      let tree ← Job.tree
      match tree.at? path with
      | .error .nullCharacter => throw (.failed (.file ⟨.nullCharacter, path⟩))
      | .ok (.file bytes) =>
        if leadsToNoFile s then return environment
        else
          let contents ← Job.orFail .decoding (Utf8.decode bytes)
          Job.orFail .variable (EnvFile.apply environment contents)
      | _ => return environment
  | _, _ => return environment

/-- The configuration from overrides, the environment and a file of variables. -/
def readConfig (environment : Environment) (envFile : Option Text) (overrides : Config.Overrides) :
    Job Config := do
  return (Config.ofEnvironment (← readEnvironment environment envFile)).override overrides

/-- The configuration from settings by name, the environment and a file of variables. The file is
read before the names are looked at. -/
def loadConfig (environment : Environment) (envFile : Option Text) (settings : Settings) :
    Job Config := do
  let settings ← Job.orFail .setting (settings.check .loading)
  let environment ← readEnvironment environment envFile
  return (Config.ofEnvironment environment).override (← Job.orFail .setting settings.overrides)

/-! ## Manifests -/

/-- Where a manifest is looked for, from the build directory. -/
def manifestPlaces : List Text := [Text.of ".vite/manifest.json", Text.of "manifest.json"]

/-- The first of some paths where something stands. -/
def firstStanding : List Path → Job (Option Path)
  | [] => return none
  | path :: paths => do
    if ← Job.has path then return some path
    else firstStanding paths

/-- The path of the manifest: the one that is given, else the first place where something stands. -/
def locateManifest (root : Path) (given : Option Text) : Job (Option Path) :=
  match path? given with
  | some path => return some path
  | none => firstStanding (manifestPlaces.map root.join)

/-- The document in a file, or the wording of what is wrong with the file or its text. A document
that is nested too deeply makes the job fail. -/
def readDocument (tree : FileTree) (path : Path) : Job (Except String Json) := do
  match tree.read path with
  | .error e => return .error e.message
  | .ok bytes =>
    match Utf8.decode bytes with
    | .error e => return .error e.message
    | .ok s =>
      let s := Text.unifyLineEnds s
      match Json.read s with
      | .ok document => return .ok document
      | .error e =>
        if e.fault.isDepth then throw (.failed (.document e.fault)) else return .error (e.message s)

/-- The manifest at the end of a path. One that is missing or cannot be read is empty, and a line
says so. -/
def readManifest : Option Path → Job Manifest
  | none => return []
  | some path => do
    let ending := Text.of " (asset paths left as-is)"
    if ← Job.has path then
      match ← readDocument (← Job.tree) path with
      | .ok document => Job.orFail .manifest (Manifest.ofJson document)
      | .error problem =>
        Job.print (Text.of "[MANIFEST] unreadable: " ++ path.text ++ Text.of ": " ++
          problem.toList ++ ending)
        return []
    else
      Job.print (Text.of "[MANIFEST] not found: " ++ path.text ++ ending)
      return []

end ClassScope.Command
