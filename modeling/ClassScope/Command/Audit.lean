import ClassScope.Audit.Report
import ClassScope.Command.Build

/-!
# The audit command

Reports the class names of a built site that are not in scope. Only the report is written.
-/

namespace ClassScope.Command

/-- The options of the audit command. -/
def auditOptions : Options where
  all :=
    [⟨Text.of "--root", .anyValue⟩, ⟨Text.of "--prefix", .anyValue⟩, ⟨Text.of "--out", .anyValue⟩]
  required := [Text.of "--root"]

/-- The name of a report without one, in the directory it is on. -/
def reportName : Text := Text.of "class_prefix_audit.json"

/-- What went wrong where there is no report. -/
def Failure.ofAudit : Audit.Failure → Failure
  | .file e => .file e
  | .markup e => .markup e
  | .setting e => .value e

/-- The audit command. -/
def audit (arguments : List Text) (environment : Environment) : Job Unit := do
  let given ← readArguments auditOptions arguments
  let root := Path.ofText
    (← Job.orFail .value (((given.value? "--root").getD (.text [])).demand .root))
  let scope :=
    (given.value? "--prefix").getD
      (.text (Config.valueOf environment "CLASS_PREFIX" Config.defaultScope))
  if !(← Job.orFail .file ((← Job.tree).hasDirectory root)) then
    throw (.refused (Text.of "Not a directory: " ++ root.text))
  let report ← Job.orFail .ofAudit (Audit.report (← Job.tree) root scope)
  let out := (path? ((given.value? "--out").bind Setting.text?)).getD (root.join reportName)
  Job.writeFile out (.ofText (Json.print report.json))
  Job.print (Text.of "[AUDIT] Report: " ++ out.text ++ Text.of " (unprefixed=" ++
    decimal report.unscopedCount ++ Text.of ", script findings=" ++ decimal report.scriptCount ++
    [')'])

end ClassScope.Command
