import ClassScope.Command.Audit

/-!
# The program

Runs a command on the files below the working directory: the part of them that the arguments name is
read into a tree, the command works on the tree, and the files that it changed are written.
-/

namespace ClassScope.Main

/-- The variables that the commands look at. -/
def variableNames : List String :=
  ["CLASS_PREFIX", "BASE_URL", "BUILD_MODE", "OG_IMAGE_MARKER", "OG_IMAGE_PATH",
    "INJECT_RUNTIME_NAMING", EnvFile.switchName]

/-- The environment of the process. -/
def environment : IO Environment := do
  let values ← variableNames.mapM fun name => do
    return ((Text.of name), ← IO.getEnv name)
  return values.filterMap fun (name, value) => value.map fun v => (name, v.toList)

/-- Adds a directory with all that is in it, or a file, to a tree. -/
partial def addEntry (location : Location) (entry : IO.FS.DirEntry) (tree : FileTree) :
    IO FileTree := do
  let location := location ++ [entry.fileName.toList]
  if ← entry.path.isDir then
    let mut tree := tree.addDirectory ⟨[], location⟩
    for inner in ← entry.path.readDir do
      tree ← addEntry location inner tree
    return tree
  else
    return tree.addFile ⟨[], location⟩ (← IO.FS.readBinFile entry.path).toList

/-- The files below those entries of the working directory that some arguments may name. -/
def readTree (arguments : List Text) : IO FileTree := do
  let firsts := arguments.map fun s => (Path.ofText ((Command.cutAtEquals s).2.getD s)).parts.head?
  let mut tree := FileTree.empty
  for entry in ← (← IO.currentDir).readDir do
    let name := entry.fileName.toList
    if firsts.any fun first => first.all fun part => part = name ∨ part = Path.up then
      tree ← addEntry [] entry tree
  return tree

/-- Writes the files of a tree that differ from another one. -/
def writeChanges (old new : FileTree) : IO Unit := do
  for (location, bytes) in new.files do
    if old.get? location ≠ some (.file bytes) then
      let path := String.ofList (Text.join ['/'] location)
      IO.FS.writeBinFile path (ByteArray.mk bytes.toArray)

/-- A command with the options it takes, in one line. -/
def usage (command : String) (options : Command.Options) : String :=
  String.ofList (Text.join [' '] (command.toList :: options.all.map Command.Opt.name))

/-- Says why a job stopped. -/
def explain : Command.Stop → IO UInt32
  | .usage e => do
    IO.eprintln ("class-scope: error: " ++ String.ofList e.text)
    return 2
  | .help => do
    IO.println (usage "class-scope" Command.buildOptions)
    IO.println (usage "class-scope audit" Command.auditOptions)
    return 0
  | .refused message => do
    IO.eprintln (String.ofList message)
    return 1
  | .failed failure => do
    IO.eprintln failure.message
    return 1

/-- Runs a job on the files that its arguments name. -/
def run {α : Type} (arguments : List Text) (job : Command.Job α) : IO UInt32 := do
  let tree ← readTree arguments
  let (result, space) := job.run ⟨tree, []⟩
  for line in space.printed do
    IO.println (String.ofList line)
  writeChanges tree space.tree
  match result with
  | .ok _ => return 0
  | .error stop => explain stop

/-- Runs the command that the first argument names, which is the build without one. -/
def dispatch (arguments : List Text) : IO UInt32 := do
  let environment ← environment
  if arguments.head? = some (Text.of "audit") then
    run arguments.tail (Command.audit arguments.tail environment)
  else run arguments (Command.build arguments environment)

end ClassScope.Main

/-- The program. -/
def main (arguments : List String) : IO UInt32 :=
  ClassScope.Main.dispatch (arguments.map String.toList)
