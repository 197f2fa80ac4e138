import ClassScope.Command.Audit
import ClassScope.Proofs.Command.Change

/-!
# How audits end

An audit either writes nothing and stops, or it writes its report and prints one line. Which report
that is and where it is written is settled by the arguments, the environment and the files. Main
statements:

- `Inspection`, `inspectionFrom`: what an audit looks at and where its report goes;
- `Inspection.ends_run`, `ends_audit`: how an audit ends.
-/

namespace ClassScope

/-! ## The values of options -/

/-- The setting may come from a command line: it is a text, or the value of an option that is left
without one. -/
def Setting.IsArgument (setting : Setting) : Prop := setting = .noValue ∨ ∃ s, setting = .text s

namespace Command

/-- All values of options are texts, or stand for none. -/
def Given.Plain (given : Given) : Prop :=
  ∀ entry ∈ given.options, ∀ setting, entry.2 = some setting → setting.IsArgument

theorem Given.plain_none : Given.none.Plain := by
  intro entry hentry
  cases hentry

theorem Given.Plain.add {given : Given} (h : given.Plain) {name : Text} {value : Option Setting}
    (hvalue : ∀ setting, value = some setting → setting.IsArgument) :
    (given.add name value).Plain :=
  List.forall_mem_cons.2 ⟨hvalue, h⟩

theorem Opt.isArgument_of_check {option : Opt} {value : Text} {setting : Setting}
    (h : option.check value = .ok setting) : setting.IsArgument := by
  unfold Opt.check at h
  split at h
  · split at h
    · exact .inr ⟨value, (Except.ok.inj h).symm⟩
    · cases h
  · exact .inr ⟨value, (Except.ok.inj h).symm⟩

theorem Opt.isArgument_of_checkAttached {option : Opt} {value : Text} {setting : Setting}
    (h : option.checkAttached value = .ok setting) : setting.IsArgument := by
  unfold Opt.checkAttached at h
  split at h
  · exact .inl (Except.ok.inj h).symm
  · exact isArgument_of_check h

theorem plain_of_gather {words : List Word} {given : Given} (h : gather words = .ok given) :
    given.Plain := by
  -- Only the steps at an option with a value add one, and it has been checked.
  fun_induction gather words generalizing given with
  | case1 =>
    cases h
    exact Given.plain_none
  | case2 s words ih | case3 words ih | case4 s words ih =>
    obtain ⟨given, hgiven, rfl⟩ := map_eq_ok.1 h
    have hplain : given.Plain := ih hgiven
    exact hplain
  | case5 attached words hrest =>
    cases h
    exact Given.plain_none
  | case6 attached words hrest => cases h
  | case7 option value words htakes ih =>
    obtain ⟨setting, hsetting, h⟩ := bind_eq_ok.1 h
    obtain ⟨given, hgiven, rfl⟩ := map_eq_ok.1 h
    refine (ih hgiven).add fun _ heq => ?_
    cases heq
    exact Opt.isArgument_of_checkAttached hsetting
  | case8 option value words htakes => cases h
  | case9 option htakes value words ih =>
    obtain ⟨setting, hsetting, h⟩ := bind_eq_ok.1 h
    obtain ⟨given, hgiven, rfl⟩ := map_eq_ok.1 h
    refine (ih hgiven).add fun _ heq => ?_
    cases heq
    exact Opt.isArgument_of_check hsetting
  | case10 option words htakes hwords => cases h
  | case11 option words htakes hhelp =>
    cases h
    exact Given.plain_none
  | case12 option words htakes hhelp ih =>
    obtain ⟨given, hgiven, rfl⟩ := map_eq_ok.1 h
    exact (ih hgiven).add nofun

theorem Options.plain_of_read {options : Options} {argv : List Text} {given : Given}
    (h : options.read argv = .ok given) : given.Plain := by
  obtain ⟨words, -, h⟩ := bind_eq_ok.1 h
  obtain ⟨gathered, hgathered, h⟩ := bind_eq_ok.1 h
  dsimp only at h
  -- What was gathered is given unless something is wrong with it.
  split at h
  · cases h
    exact plain_of_gather hgathered
  · split at h
    · cases h
    · split at h
      · cases h
      · cases h
        exact plain_of_gather hgathered

theorem Given.Plain.value? {given : Given} (h : given.Plain) {name : String} {setting : Setting}
    (hvalue : given.value? name = some setting) : setting.IsArgument := by
  obtain ⟨entry, hentry, hsetting⟩ := Option.bind_eq_some_iff.1 hvalue
  exact h entry (List.mem_reverse.1 (List.mem_of_find?_eq_some hentry)) setting hsetting

/-! ## Audits -/

/-- What an audit works with once it has read its arguments. -/
structure Inspection where
  /-- The directory. -/
  root : Path
  /-- The scope that class names should be in. -/
  scope : Setting
  /-- The path of the report. -/
  out : Path
  deriving DecidableEq

namespace Inspection

/-- The audit that some options ask for. -/
def ofGiven (given : Given) (environment : Environment) : Except Setting.Misuse Inspection := do
  let root := Path.ofText (← ((given.value? "--root").getD (.text [])).demand .root)
  return {
    root
    scope := (given.value? "--prefix").getD
      (.text (Config.valueOf environment "CLASS_PREFIX" Config.defaultScope))
    out := (path? ((given.value? "--out").bind Setting.text?)).getD (root.join reportName) }

/-- The last line of an audit. -/
def summary (inspection : Inspection) (report : Audit.Report) : Text :=
  Text.of "[AUDIT] Report: " ++ inspection.out.text ++ Text.of " (unprefixed=" ++
    decimal report.unscopedCount ++ Text.of ", script findings=" ++ decimal report.scriptCount ++
    [')']

/-- The audit, with its arguments read. -/
def run (inspection : Inspection) : Job Unit := do
  if !(← Job.orFail .file ((← Job.tree).hasDirectory inspection.root)) then
    throw (.refused (Text.of "Not a directory: " ++ inspection.root.text))
  let report ← Job.orFail .ofAudit (Audit.report (← Job.tree) inspection.root inspection.scope)
  Job.writeFile inspection.out (.ofText (Json.print report.json))
  Job.print (inspection.summary report)

/-- The report is written, and the tree is another one then. -/
structure Delivers (inspection : Inspection) (tree : FileTree) (report : Audit.Report)
    (tree' : FileTree) : Prop where
  /-- The directory is one. -/
  directory : tree.hasDirectory inspection.root = .ok true
  /-- The report is on the files as they were. -/
  reported : Audit.report tree inspection.root inspection.scope = .ok report
  /-- It is written. -/
  written : tree.write inspection.out (Utf8.encode (Json.print report.json)) = .ok tree'

/-- How an audit ends on some files, after some lines were printed. -/
inductive Ends (inspection : Inspection) (tree : FileTree) (printed : List Text) :
    Except Stop Unit × Workspace → Prop where
  /-- The directory is none or cannot be read, or the report cannot be written. -/
  | stopped {stop : Stop} (h : ∀ report tree', ¬ inspection.Delivers tree report tree') :
    Ends inspection tree printed (.error stop, ⟨tree, printed⟩)
  /-- The report is written. -/
  | done {report : Audit.Report} {tree' : FileTree} (h : inspection.Delivers tree report tree') :
    Ends inspection tree printed (.ok (), ⟨tree', printed ++ [inspection.summary report]⟩)

/-- An audit ends in one of these ways. -/
theorem ends_run (inspection : Inspection) (tree : FileTree) (printed : List Text) :
    inspection.Ends tree printed (inspection.run.run ⟨tree, printed⟩) := by
  -- Wherever the audit stops, a report that were delivered would have led on from there.
  rw [run, Job.run_bind_ok (Job.run_tree _), Job.run_bind, Job.run_orFail]
  cases hdirectory : tree.hasDirectory inspection.root with
  | error e =>
    refine .stopped fun report tree' h => ?_
    rw [h.directory] at hdirectory
    cases hdirectory
  | ok there =>
    cases there with
    | false =>
      refine .stopped fun report tree' h => ?_
      rw [h.directory] at hdirectory
      cases hdirectory
    | true =>
      change inspection.Ends tree printed ((Job.tree >>= _).run ⟨tree, printed⟩)
      rw [Job.run_bind_ok (Job.run_tree _), Job.run_bind, Job.run_orFail]
      cases hreport : Audit.report tree inspection.root inspection.scope with
      | error e =>
        refine .stopped fun report tree' h => ?_
        rw [h.reported] at hreport
        cases hreport
      | ok report =>
        dsimp only [mapError_ok]
        rw [Job.run_bind, run_writeFile, WideText.written_ofText, Utf8.encodeWide_ofText,
          FileTree.afterWrite]
        cases hwrite : tree.write inspection.out (Utf8.encode (Json.print report.json)) with
        | error e =>
          refine .stopped fun report' tree' h => ?_
          cases Except.ok.inj (hreport.symm.trans h.reported)
          rw [h.written] at hwrite
          cases hwrite
        | ok tree' => exact .done ⟨hdirectory, hreport, hwrite⟩

/-- An audit whose report can be written returns. -/
theorem Ends.returns {inspection : Inspection} {tree tree' : FileTree} {printed : List Text}
    {report : Audit.Report} {outcome : Except Stop Unit × Workspace}
    (hends : inspection.Ends tree printed outcome)
    (h : inspection.Delivers tree report tree') : outcome.1 = .ok () := by
  cases hends with
  | stopped hnone => exact absurd h (hnone report tree')
  | done => rfl

end Inspection

/-! ## The audit command -/

variable {argv : List Text} {environment : Environment} {tree : FileTree} {printed : List Text}
  {inspection : Inspection}

/-- What the arguments of an audit ask for, or why they ask for nothing. -/
def inspectionFrom (argv : List Text) (environment : Environment) : Except Stop Inspection :=
  match auditOptions.read argv with
  | .error e => .error (.usage e)
  | .ok given =>
    if given.help then .error .help
    else (Inspection.ofGiven given environment).mapError fun e => .failed (.value e)

/-- How an audit command runs. -/
theorem run_audit (argv : List Text) (environment : Environment) (tree : FileTree)
    (printed : List Text) :
    (audit argv environment).run ⟨tree, printed⟩ =
      match inspectionFrom argv environment with
      | .error stop => (.error stop, ⟨tree, printed⟩)
      | .ok inspection => inspection.run.run ⟨tree, printed⟩ := by
  rw [audit, inspectionFrom, readArguments]
  cases auditOptions.read argv with
  | error e => rfl
  | ok given =>
    dsimp only
    cases given.help with
    | true => rfl
    | false =>
      rw [if_neg Bool.false_ne_true, if_neg Bool.false_ne_true, pure_bind, Inspection.ofGiven]
      cases ((given.value? "--root").getD (.text [])).demand .root with
      | error e => rfl
      | ok root => rfl

/-- An audit command that asks for an audit ends as that does. -/
theorem ends_audit (h : inspectionFrom argv environment = .ok inspection) (tree : FileTree)
    (printed : List Text) :
    inspection.Ends tree printed ((audit argv environment).run ⟨tree, printed⟩) := by
  rw [run_audit, h]
  exact inspection.ends_run tree printed

/-- The scope of an audit is a text, unless its option is left without a value. -/
theorem isArgument_scope (h : inspectionFrom argv environment = .ok inspection) :
    inspection.scope.IsArgument := by
  unfold inspectionFrom at h
  split at h
  · cases h
  · rename_i given hgiven
    split at h
    · cases h
    · obtain ⟨root, -, hroot⟩ := bind_eq_ok.1 (mapError_eq_ok.1 h)
      cases hroot
      dsimp only
      cases hscope : given.value? "--prefix" with
      | none => exact .inr ⟨_, rfl⟩
      | some scope => exact (Options.plain_of_read hgiven).value? hscope

end Command

end ClassScope
