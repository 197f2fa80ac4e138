import ClassScope.Command.Job
import ClassScope.Json.Printer

/-!
# The build command

Puts the class names of a built site in scope, in place. All scripts and stylesheets below the build
directory are transformed, then the manifest is read and the document is finished. At the end the
class map is written; a directory that has one is passed over, so that no name gets a second scope.
-/

namespace ClassScope.Command

/-- The arguments of the build command. -/
structure BuildArguments where
  /-- The build directory. -/
  root : Text
  /-- The document, seen from the build directory. -/
  html : Text := Text.of "index.html"
  /-- The manifest. -/
  manifest : Option Text := none
  /-- The file of variables. -/
  envFile : Option Text := none
  /-- The settings that are given. -/
  overrides : Config.Overrides := {}
  /-- Old texts are kept beside the files. -/
  backup : Bool := false
  /-- Nothing is written. -/
  dryRun : Bool := false
  deriving DecidableEq, Repr

/-- The options of the build command. -/
def buildOptions : Options where
  all :=
    [⟨Text.of "--root", .anyValue⟩, ⟨Text.of "--html", .anyValue⟩,
      ⟨Text.of "--manifest", .anyValue⟩, ⟨Text.of "--prefix", .anyValue⟩,
      ⟨Text.of "--base-url", .anyValue⟩, ⟨Text.of "--mode", .oneOf Config.modes⟩,
      ⟨Text.of "--env-file", .anyValue⟩, ⟨Text.of "--inject-runtime", .nothing⟩,
      ⟨Text.of "--backup", .nothing⟩, ⟨Text.of "--dry-run", .nothing⟩]
  required := [Text.of "--root"]

/-- The arguments that some options give. The manifest and the file of variables may be left without
a value, which is as if they were not given. -/
def BuildArguments.ofGiven (given : Given) : Except Setting.Misuse BuildArguments := do
  let root ← ((given.value? "--root").getD (.text [])).demand .root
  let html ← ((given.value? "--html").getD (.text (Text.of "index.html"))).demand .document
  return {
    root
    html
    manifest := (given.value? "--manifest").bind Setting.text?
    envFile := (given.value? "--env-file").bind Setting.text?
    overrides :=
      { scope := given.value? "--prefix"
        baseUrl := given.value? "--base-url"
        mode := given.value? "--mode"
        injectsNaming := if given.has "--inject-runtime" then some (.flag true) else none }
    backup := given.has "--backup"
    dryRun := given.has "--dry-run" }

/-- The name of the class map, in the build directory. -/
def classMapName : Text := Text.of "class_prefix_map.json"

/-- The suffixes of the files that are modules. -/
def moduleSuffixes : List Text := [ModuleKind.scriptSuffix, ModuleKind.styleSuffix]

/-- The file at the end of a path is a module, by its name. -/
def isModule (path : Path) : Bool := moduleSuffixes.contains (Path.suffixOf path.name)

/-- The paths of the modules below a directory, in the order of their parts. -/
def modulePaths (tree : FileTree) (root : Path) : Except FileError (List Path) := do
  let paths := (← tree.listing root).map fun (names, _) => root.extend names
  return (← tree.filesAmong paths).filter isModule

/-- A number in decimal digits. -/
def decimal (n : Nat) : Text := Nat.toDigits 10 n

/-- Transforms modules one after the other, and counts those whose text changes. -/
def transformModules (arguments : BuildArguments) (session : Session) (changed : Nat) :
    List Path → Job (Session × Nat)
  | [] => return (session, changed)
  | path :: paths => do
    let old ← Job.orFail .file ((← Job.tree).readText path)
    let (new, session) ← Job.orFail .order (session.transform path.name old)
    if new = old then transformModules arguments session changed paths
    else
      if !arguments.dryRun then
        let _ ← Job.writeChanged path (.ofText new) old arguments.backup
      transformModules arguments session (changed + 1) paths

/-- The lines on the configuration. -/
def configLines (config : Config) : List Text :=
  (if config.knownMode then []
    else
      [Text.of "[PREFIX] Unknown mode " ++ config.mode.quoted ++ Text.of " (expected " ++
        Text.join (Text.of " | ") Config.modes ++ Text.of "): files pass through unchanged"]) ++
  (if config.scope.isTrue then []
    else [Text.of "[PREFIX] Empty prefix: files pass through unchanged"]) ++
  [Text.of "[PREFIX] mode=" ++ config.mode.asText ++ Text.of " prefix=" ++ config.scope.quoted ++
    Text.of " base_url=" ++ config.baseUrl.quoted]

/-- The document that holds a class map, sorted by name. -/
def classMapText (registry : Registry) : Text :=
  Json.print (.ofMembers ((Text.sortBy Prod.fst registry.entries).map fun (name, full) =>
    (name, .ofText full)))

/-- The last line of a build. -/
def summary (dryRun : Bool) (changed : Nat) (finished : Bool) (session : Session) : Text :=
  Text.of "[PREFIX] " ++ (if dryRun then Text.of "would change " else Text.of "changed ") ++
    decimal changed ++ Text.of " module(s) (scripts=" ++ decimal session.tally.scripts ++
    Text.of ", styles=" ++ decimal session.tally.styles ++ Text.of "); document " ++
    (if finished then Text.of "updated" else Text.of "unchanged") ++ Text.of "; classes=" ++
    decimal session.registry.size

/-- Transforms the modules and finishes the document of a build directory. -/
def buildAt (arguments : BuildArguments) (config : Config) (root document : Path) :
    Job Session := do
  let modules ← Job.orFail .file (modulePaths (← Job.tree) root)
  let (session, changed) ← transformModules arguments (.start config) 0 modules
  let manifestPath ← locateManifest root arguments.manifest
  let manifest ← readManifest manifestPath
  if let some path := manifestPath then
    Job.print (Text.of "[MANIFEST] " ++ path.text ++ Text.of ": " ++ decimal manifest.length ++
      Text.of " entries")
  let session ← Job.orFail .order (session.bundle manifest)
  let old ← Job.orFail .file ((← Job.tree).readText document)
  let (outcome, session) ← Job.orFail .order (session.finish old)
  let new ← Job.orFail .value outcome
  let changesDocument : Bool := new ≠ .ofText old
  if changesDocument ∧ !arguments.dryRun then
    let _ ← Job.writeChanged document new old arguments.backup
  if session.enabled ∧ !arguments.dryRun then
    let classMap := root.join classMapName
    Job.writeFile classMap (.ofText (classMapText session.registry))
    Job.print (Text.of "[PREFIX] Class map: " ++ classMap.text)
  Job.print (summary arguments.dryRun changed changesDocument session)
  return session

/-- Builds with some arguments. A directory that has a class map is passed over. -/
def buildWith (arguments : BuildArguments) (environment : Environment) : Job (Option Session) := do
  let root := Path.ofText arguments.root
  let document := root.join arguments.html
  if !(← Job.has document) then
    throw (.refused (arguments.html ++ Text.of " not found under " ++ root.text))
  let config ← readConfig environment arguments.envFile arguments.overrides
  (configLines config).forM Job.print
  let classMap := root.join classMapName
  if config.enabled then
    if ← Job.has classMap then
      Job.print (Text.of "[PREFIX] Skip: " ++ classMap.text ++ Text.of " exists, " ++ root.text ++
        Text.of " was already prefixed")
      return none
  return some (← buildAt arguments config root document)

/-- What the arguments of a command give, unless they make no sense or ask for help. -/
def readArguments (options : Options) (arguments : List Text) : Job Given := do
  match options.read arguments with
  | .error e => throw (.usage e)
  | .ok given => if given.help then throw .help else return given

/-- The build command. It gives no session where the directory was passed over. -/
def build (arguments : List Text) (environment : Environment) : Job (Option Session) := do
  let given ← readArguments buildOptions arguments
  buildWith (← Job.orFail .value (BuildArguments.ofGiven given)) environment

end ClassScope.Command
