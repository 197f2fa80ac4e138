import ClassScope.Proofs.Command.Frame
import ClassScope.Proofs.Command.Refinement
import ClassScope.Proofs.Command.Switch

/-!
# Dry runs

A dry run transforms the texts that the real run transforms, and writes none of them. Where the
document and the manifest are other files than the modules, the real run reads nothing that it wrote
before. So both give and print the same, unless the real run fails to write. Main statements:

- `Setup.foretells_buildAt`: a build with a setup, next to the dry run;
- `dryRun_foretells`: the build command with the switch, next to the command without it.
-/

namespace ClassScope.Command

variable {tree mid final : FileTree} {paths : List Path} {setup : Setup} {argv : List Text}
  {environment : Environment}

namespace Setup

/-- What a dry run works with. -/
def dry (setup : Setup) : Setup := { setup with arguments := setup.arguments.dry }

/-- Why a build stops that a dry run would not stop: it fails to write. -/
inductive FailsToWrite (setup : Setup) (tree : FileTree) : Stop → Prop where
  /-- The path of the spare copy of a module is too long. -/
  | moduleSpare {paths : List Path} {change : Change}
    (hlisted : modulePaths tree setup.root = .ok paths)
    (hchange : change ∈ setup.moduleChanges tree paths)
    (h : ¬ change.Spared setup.arguments.backup) :
    FailsToWrite setup tree (.failed (.file ⟨.nameTooLong, change.path.spare⟩))
  /-- The path of the spare copy of the document is too long. -/
  | documentSpare {change : Change} (hchange : setup.documentChange? tree = some change)
    (h : ¬ change.Spared setup.arguments.backup) :
    FailsToWrite setup tree (.failed (.file ⟨.nameTooLong, change.path.spare⟩))
  /-- The finished document has no bytes. -/
  | encoding {change : Change} {e : Utf8.Unencodable}
    (hchange : setup.documentChange? tree = some change)
    (h : Utf8.encodeWide change.new = .error e) : FailsToWrite setup tree (.failed (.encoding e))
  /-- There should be a class map, and the build directory is none. -/
  | classMap {e : FileError} (hlive : setup.live = true)
    (h : tree.look setup.root ≠ .ok (some .directory)) :
    FailsToWrite setup tree (.failed (.file e))

end Setup

/-- What a dry run gives and prints, next to what the real run does. -/
inductive Foretells (argv : List Text) (environment : Environment) (tree : FileTree) :
    Except Stop (Option Session) × List Text → Except Stop (Option Session) × List Text → Prop where
  /-- Both stop, for the same reason. -/
  | stopped (stop : Stop) (printed : List Text) :
    Foretells argv environment tree (.error stop, printed) (.error stop, printed)
  /-- Both pass the directory over. -/
  | passedOver (printed : List Text) :
    Foretells argv environment tree (.ok none, printed) (.ok none, printed)
  /-- Both give the same session. The real run has a line on the class map, and the last line says
  that files were changed, not that they would be. -/
  | built {setup : Setup} (hreaches : setup.Reaches argv environment tree) (session : Session)
    (changed : Nat) (finished : Bool) (printed : List Text) :
    Foretells argv environment tree
      (.ok (some session), printed ++ [summary true changed finished session])
      (.ok (some session),
        printed ++ setup.mapLines ++ [summary false changed finished session])
  /-- The real run fails to write. -/
  | unwritten {setup : Setup} (hreaches : setup.Reaches argv environment tree) {stop : Stop}
    (h : setup.FailsToWrite tree stop) (dry : Except Stop (Option Session) × List Text)
    (printed : List Text) : Foretells argv environment tree dry (.error stop, printed)

/-! ## The dry run -/

namespace Setup

variable {manifest : Manifest} {old : Text} {new : WideText}

theorem dryRun_dry (setup : Setup) : setup.dry.arguments.dryRun = true := rfl

theorem root_dry (setup : Setup) : setup.dry.root = setup.root := rfl

theorem document_dry (setup : Setup) : setup.dry.document = setup.document := rfl

theorem config_dry (setup : Setup) : setup.dry.config = setup.config := rfl

/-- A dry run has all modules done as they are. -/
theorem modulesDone_dry (hlisted : modulePaths tree setup.root = .ok paths)
    (hmodules : setup.dry.ModulesDone tree paths mid) : mid = tree := by
  rw [hmodules.rewritten, (quiet_of_dryRun setup.dryRun_dry).modules paths hlisted, rewriteAll_nil]

/-- A dry run does not write the document. -/
theorem documentChange?_dry (setup : Setup) (mid : FileTree) :
    setup.dry.documentChange? mid = none := by
  rw [Option.eq_none_iff_forall_ne_some]
  intro change hchange
  obtain ⟨-, -, -, -, -, -, hdry⟩ := documentChange?_eq_some hchange
  cases hdry

/-- A dry run leaves all files as they are. -/
theorem tree_dry (setup : Setup) (tree : FileTree) (printed : List Text) :
    ((buildAt setup.dry.arguments setup.config setup.root setup.document).run
      ⟨tree, printed⟩).2.tree = tree :=
  (quiet_of_dryRun setup.dryRun_dry).tree_of_ends (setup.dry.ends_buildAt tree printed)

/-- A dry run comes to its manifest with the files as they are. -/
theorem run_buildAt_dry (hlisted : modulePaths tree setup.root = .ok paths)
    (printed : List Text) :
    (buildAt setup.dry.arguments setup.config setup.root setup.document).run ⟨tree, printed⟩ =
      (withManifest setup.root setup.arguments.manifest
        (finishDocument setup.dry.arguments setup.root setup.document
          ((Session.start setup.config).afterModules (sourcesAt tree paths))
          (Command.moduleChanges setup.config tree paths).length)).run ⟨tree, printed⟩ := by
  rcases setup.dry.run_buildAt hlisted printed with
    ⟨change, hchange, -⟩ | ⟨mid, hmodules, hrun⟩
  · rw [(quiet_of_dryRun setup.dryRun_dry).modules paths hlisted] at hchange
    cases hchange
  · rw [modulesDone_dry hlisted hmodules] at hrun
    exact hrun

/-- A dry run gets to its end once the document is finished. -/
theorem run_writeDocument_dry (changed : Nat) {session : Session}
    (henabled : session.enabled = setup.config.enabled)
    (hread : setup.DocumentRead mid manifest old new) (printed : List Text) :
    (writeDocument setup.dry.arguments setup.root setup.document changed old new session).run
        ⟨mid, printed⟩ =
      (.ok session,
        ⟨mid, printed ++ [summary true changed (decide (new ≠ .ofText old)) session]⟩) := by
  have hread' : setup.dry.DocumentRead mid manifest old new :=
    ⟨hread.manifestRead, hread.documentRead, hread.finished⟩
  have hlive : setup.dry.live = false := Bool.and_false _
  have hwrite := setup.dry.run_writeDocument changed session hread' printed
  rw [documentChange?_dry] at hwrite
  have hclose := setup.dry.run_closeBuild changed (decide (new ≠ .ofText old)) henabled mid printed
  rw [hlive, mapLines, hlive, if_neg Bool.false_ne_true, if_neg Bool.false_ne_true,
    List.append_nil] at hclose
  exact hwrite.trans hclose

/-! ## The real run -/

/-- After the document was written, the real run gives what the dry run gives, unless the class map
cannot be written. -/
theorem foretells_closeBuild (hreaches : setup.Reaches argv environment tree)
    (hdry : setup.arguments.dryRun = false) (changed : Nat) (finished : Bool) {session : Session}
    (henabled : session.enabled = setup.config.enabled) (hfinal : tree.SameDirectories final)
    (printed : List Text) :
    let real := (closeBuild setup.arguments setup.root changed finished session).run
      ⟨final, printed⟩
    Foretells argv environment tree
      (.ok (some session), printed ++ [summary true changed finished session])
      (real.1.map some, real.2.printed) := by
  rw [setup.run_closeBuild changed finished henabled final printed, hdry]
  by_cases hlive : setup.live = true
  · rw [if_pos hlive]
    cases hwrite : final.write setup.classMap (Utf8.encode (classMapText session.registry)) with
    | error e =>
      refine .unwritten hreaches (.classMap hlive fun hroot => ?_) _ _
      -- In a directory the class map could have been written.
      obtain ⟨directory, hplace, hdirectory⟩ := FileTree.look_eq_some_iff.1 hroot
      have hmissing := hreaches.unmarked (live_iff.1 hlive).1
      obtain ⟨tree', hwritten, -⟩ := exists_write_classMap hplace hdirectory hmissing hfinal
        (Utf8.encode (classMapText session.registry))
      cases hwrite.symm.trans hwritten
    | ok tree' => exact .built hreaches session changed finished printed
  · rw [if_neg hlive]
    exact .built hreaches session changed finished printed

/-- Once the document is finished, the real run gives what the dry run gives, unless it fails to
write. -/
theorem foretells_writeDocument (hreaches : setup.Reaches argv environment tree)
    (hdry : setup.arguments.dryRun = false) (hapart : setup.Apart tree)
    (hmodules : setup.ModulesDone tree paths mid) (hread : setup.DocumentRead mid manifest old new)
    (changed : Nat) {session : Session} (henabled : session.enabled = setup.config.enabled)
    (printed : List Text) :
    let real := (writeDocument setup.arguments setup.root setup.document changed old new
      session).run ⟨mid, printed⟩
    Foretells argv environment tree
      (.ok (some session),
        printed ++ [summary true changed (decide (new ≠ .ofText old)) session])
      (real.1.map some, real.2.printed) := by
  have hclose := fun final (hfinal : tree.SameDirectories final) =>
    foretells_closeBuild hreaches hdry changed (decide (new ≠ .ofText old)) henabled hfinal printed
  have hsame := hapart.documentChange?_eq hmodules hreaches.document
  rw [setup.run_writeDocument changed session hread printed]
  cases hchange : setup.documentChange? mid with
  | none => exact hclose mid hmodules.sameDirectories
  | some change =>
    obtain ⟨place, bytes, hplace, hfile⟩ := exists_file_of_documentChange? hchange
    have hwritten := Change.sameDirectories_apply setup.arguments.backup hplace hfile
    -- The dry run would see the same change; only writing it may fail.
    rw [hsame] at hchange
    dsimp only
    by_cases hspared : change.Spared setup.arguments.backup
    · rw [if_pos hspared]
      cases hencode : Utf8.encodeWide change.new with
      | ok encoded => exact hclose _ (hmodules.sameDirectories.trans hwritten)
      | error e => exact .unwritten hreaches (.encoding hchange hencode) _ _
    · rw [if_neg hspared]
      exact .unwritten hreaches (.documentSpare hchange hspared) _ _

/-- After the manifest was read, the real run gives what the dry run gives, unless it fails to
write. -/
theorem foretells_finishDocument (hreaches : setup.Reaches argv environment tree)
    (hdry : setup.arguments.dryRun = false) (hapart : setup.Apart tree)
    (hmodules : setup.ModulesDone tree paths mid)
    (hmanifest : (manifestOf setup.root setup.arguments.manifest).answer tree = .ok manifest)
    (sources : List (Text × Text)) (changed : Nat) (printed : List Text) :
    let session := (Session.start setup.config).afterModules sources
    let dry := (finishDocument setup.dry.arguments setup.root setup.document session changed
      manifest).run ⟨tree, printed⟩
    let real := (finishDocument setup.arguments setup.root setup.document session changed
      manifest).run ⟨mid, printed⟩
    Foretells argv environment tree (dry.1.map some, dry.2.printed)
      (real.1.map some, real.2.printed) := by
  have htext := hmodules.readText_document (hapart.document paths hmodules.listed)
    hreaches.document
  have hdryRun := setup.dry.run_finishDocument changed sources manifest tree printed
  simp only [root_dry, document_dry, config_dry] at hdryRun
  dsimp only
  rw [hdryRun, setup.run_finishDocument changed sources manifest mid printed, htext]
  cases hold : tree.readText setup.document with
  | error e => exact .stopped _ _
  | ok old =>
    dsimp only
    cases hnew : setup.config.finishedMarkup manifest old with
    | error e => exact .stopped _ _
    | ok new =>
      dsimp only
      have henabled := Build.enabled_finalSession setup.config sources old manifest
      rw [run_writeDocument_dry changed henabled ⟨hmanifest, hold, hnew⟩]
      exact foretells_writeDocument hreaches hdry hapart hmodules
        ⟨(hapart.answer_manifestOf hmodules).trans hmanifest, htext.trans hold, hnew⟩ changed
        henabled printed

/-- A build with a setup gives what the dry run gives, unless it fails to write. -/
theorem foretells_buildAt (hreaches : setup.Reaches argv environment tree)
    (hdry : setup.arguments.dryRun = false) (hapart : setup.Apart tree) (printed : List Text) :
    let dry := (buildAt setup.dry.arguments setup.config setup.root setup.document).run
      ⟨tree, printed⟩
    let real := (buildAt setup.arguments setup.config setup.root setup.document).run
      ⟨tree, printed⟩
    Foretells argv environment tree (dry.1.map some, dry.2.printed)
      (real.1.map some, real.2.printed) := by
  cases hlisted : modulePaths tree setup.root with
  | error e =>
    rw [buildAt_eq, buildAt_eq, Job.run_bind_ok (Job.run_tree _), Job.run_bind_ok (Job.run_tree _),
      Job.run_bind, Job.run_bind, Job.run_orFail, hlisted]
    exact .stopped _ _
  | ok paths =>
    rw [run_buildAt_dry hlisted]
    rcases setup.run_buildAt hlisted printed with
      ⟨change, hchange, hunspared, hrun⟩ | ⟨mid, hmodules, hrun⟩
    · -- The dry run makes no spare copies, so it goes on.
      rw [hrun]
      exact .unwritten hreaches (.moduleSpare hlisted hchange hunspared) _ _
    · -- What is read from here on was not written before.
      rw [hrun, run_withManifest, run_withManifest,
        (hapart.alike_announceManifest hmodules).lines, hapart.answer_manifestOf hmodules]
      cases hmanifest : (manifestOf setup.root setup.arguments.manifest).answer tree with
      | error stop => exact .stopped _ _
      | ok manifest =>
        exact foretells_finishDocument hreaches hdry hapart hmodules hmanifest _ _ _

end Setup

/-! ## The build command -/

/-- Where an option may stand, the switch makes a build leave all files as they are and foretell
what it gives and prints without the switch, unless it fails to write. -/
theorem dryRun_foretells {front : List Text} (hfront : Receptive front) (back : List Text)
    (hreal : ∀ arguments, argumentsFrom (front ++ back) = .ok arguments → arguments.dryRun = false)
    (hapart : ∀ setup : Setup, setup.Reaches (front ++ back) environment tree → setup.Apart tree)
    (printed : List Text) :
    let dry := (build (front ++ dryRunSwitch :: back) environment).run ⟨tree, printed⟩
    let real := (build (front ++ back) environment).run ⟨tree, printed⟩
    dry.2.tree = tree ∧
      Foretells (front ++ back) environment tree (dry.1, dry.2.printed)
        (real.1, real.2.printed) := by
  dsimp only
  rw [run_build, run_build, argumentsFrom_switch hfront]
  cases harguments : argumentsFrom (front ++ back) with
  | error stop => exact ⟨rfl, .stopped _ _⟩
  | ok arguments =>
    -- The switch is not looked at before the modules are.
    have hprepare : prepare arguments.dry environment = prepare arguments environment := rfl
    simp only [Except.map, hprepare]
    cases hanswer : (prepare arguments environment).answer tree with
    | error stop => exact ⟨rfl, .stopped _ _⟩
    | ok found =>
      cases found with
      | none => exact ⟨rfl, .passedOver _⟩
      | some config =>
        let setup : Setup := ⟨arguments, config⟩
        have hreaches : setup.Reaches (front ++ back) environment tree :=
          reaches_iff.2 ⟨harguments, hanswer⟩
        exact ⟨setup.tree_dry tree _, setup.foretells_buildAt hreaches (hreal _ harguments)
          (hapart setup hreaches) _⟩

/-- A dry run next to a build with spare copies. -/
theorem dryRun_foretells_sheetSite :
    let dry := (build (sheetArguments ++ [dryRunSwitch]) []).run ⟨sheetSite, []⟩
    let real := (build sheetArguments []).run ⟨sheetSite, []⟩
    Receptive sheetArguments ∧ argumentsFrom sheetArguments = .ok sheetSetup.arguments ∧
      sheetSetup.arguments.dryRun = false ∧ sheetSetup.Apart sheetSite ∧
        dry.2.tree = sheetSite ∧
          Foretells sheetArguments [] sheetSite (dry.1, dry.2.printed)
            (real.1, real.2.printed) := by
  have hfront : Receptive sheetArguments := by
    refine ⟨?_, fun s hs option hoption => ?_⟩
    · simp only [sheetArguments, Text.of_eq_toList]
      decide
    · obtain rfl : Text.of "--backup" = s := Option.some.inj hs
      have hword : buildOptions.word (Text.of "--backup") =
          .ok (.option ⟨Text.of "--backup", .nothing⟩ none) := by
        decide +kernel
      cases hword.symm.trans hoption
      rfl
  have harguments := (reaches_iff.1 reaches_sheetSetup).1
  have hforetells := @dryRun_foretells sheetSite [] sheetArguments hfront []
    (fun arguments h => by
      rw [List.append_nil, harguments] at h
      cases h
      rfl)
    (fun setup hreaches => by
      rw [List.append_nil] at hreaches
      rw [reaches_sheetSetup.setup_eq (argumentsOf?_of_reaches hreaches) hreaches.config]
      exact ready_sheetSetup.apart) []
  rw [List.append_nil] at hforetells
  exact ⟨hfront, harguments, rfl, ready_sheetSetup.apart, hforetells⟩

/-- A dry run in a build directory that is a file gives a session, and the build fails for want of a
place for its class map. -/
theorem dryRun_of_document_succeeds :
    documentSetup.Reaches documentArguments [] documentSite ∧ documentSetup.Apart documentSite ∧
      ((build (documentArguments ++ [dryRunSwitch]) []).run ⟨documentSite, []⟩).1 =
        .ok (some (Build.finalSession documentSetup.config [] [] [])) ∧
      ((build documentArguments []).run ⟨documentSite, []⟩).1 = .error (.failed (.file
        ⟨.notDirectory, ⟨[], [Text.of "index.html", Text.of "class_prefix_map.json"]⟩⟩)) := by
  refine ⟨reaches_documentSetup, ready_documentSetup.apart, ?_, ?_⟩
  · decide +kernel
  · decide +kernel

end ClassScope.Command
