import ClassScope.Audit.Markup
import ClassScope.Audit.Script
import ClassScope.File.Access
import ClassScope.Setting

/-!
# Audit reports

The findings in all documents and scripts below a directory, by file.
-/

namespace ClassScope.Audit

/-- The findings below a directory. Files without findings are left out. -/
structure Report where
  /-- The scope that class names should be in. -/
  scope : Setting
  /-- The documents with their findings. -/
  markup : List (Text × List MarkupFinding)
  /-- The scripts with their findings. -/
  scripts : List (Text × List ScriptFinding)
  deriving DecidableEq, Repr

/-- The number of class names that are not in scope. -/
def Report.unscopedCount (report : Report) : Nat := (report.markup.flatMap Prod.snd).length

/-- The number of findings in scripts. -/
def Report.scriptCount (report : Report) : Nat := (report.scripts.flatMap Prod.snd).length

/-- Why there is no report. -/
inductive Failure where
  /-- A file could not be used. -/
  | file (e : FileError)
  /-- A document could not be read. -/
  | markup (e : Html.Rejection)
  /-- The scope has a value that cannot be used. -/
  | setting (e : Setting.Misuse)
  deriving DecidableEq, Repr

/-- The findings in a document for a scope that may not be a text. Such a scope is an error as soon
as there is a class name that should be in it. -/
def findingsInMarkup (scope : Setting) (html : Text) : Except Failure (List MarkupFinding) :=
  match scope with
  | .text scope => (markupFindings scope html).mapError .markup
  | .other value => do
    let nodes ← (Html.nodes html).mapError .markup
    if nodes.all (·.classes.isEmpty) then return [] else .error (.setting ⟨.front, value.kind⟩)

/-- The findings in the files of some locations below a directory whose names have an ending. A
directory with such a name cannot be read. -/
def findingsIn {α : Type} (tree : FileTree) (root : Path) (ending : Text)
    (find : Text → Except Failure (List α)) :
    List (List Text) → Except Failure (List (Text × List α))
  | [] => .ok []
  | names :: rest =>
    if Text.endsWith ending (names.getLastD []) then do
      let s ← (tree.readText (root.extend names)).mapError .file
      let found ← find s
      let others ← findingsIn tree root ending find rest
      return if found.isEmpty then others else (Text.join ['/'] names, found) :: others
    else findingsIn tree root ending find rest

/-- The report on a directory. All directories below it are opened before any file is read. -/
def report (tree : FileTree) (root : Path) (scope : Setting) : Except Failure Report := do
  let names ← (tree.search root).mapError .file
  let markup ← findingsIn tree root (Text.of ".html") (findingsInMarkup scope) names
  let scripts ← findingsIn tree root (Text.of ".js") (fun code => .ok (scriptFindings code)) names
  return { scope, markup, scripts }

/-- A finding in markup as a value. -/
def MarkupFinding.json (finding : MarkupFinding) : Json :=
  .ofMembers [(Text.of "path", .ofText finding.path), (Text.of "class", .ofText finding.name)]

/-- A finding in a script as a value. -/
def ScriptFinding.json (finding : ScriptFinding) : Json :=
  .ofMembers [(Text.of "kind", .ofText finding.issue.word.toList),
    (Text.of "snippet", .ofText finding.snippet)]

/-- Findings by file as a value. -/
def byFile {α : Type} (json : α → Json) (files : List (Text × List α)) : Json :=
  .ofMembers (files.map fun (name, found) => (name, .array (found.map json)))

/-- A report as a value. -/
def Report.json (report : Report) : Json :=
  .ofMembers
    [(Text.of "prefix", report.scope.json),
      (Text.of "markup", byFile MarkupFinding.json report.markup),
      (Text.of "scripts", byFile ScriptFinding.json report.scripts),
      (Text.of "unprefixed_count", .int report.unscopedCount),
      (Text.of "script_findings_count", .int report.scriptCount)]

end ClassScope.Audit
