import ClassScope.Proofs.Command.Modules
import ClassScope.Proofs.Command.Reading
import Mathlib.Data.List.TakeWhile

/-!
# How builds end

A build either does not get to its modules, and then it writes nothing, or it works with a setup:
arguments and a configuration. From there it ends in one of a few ways, each with the files it
leaves (`Setup.Ends`). Main statements:

- `Setup.run_buildAt`, `run_withManifest`, `Setup.run_finishDocument`, `Setup.run_writeDocument`,
  `Setup.run_closeBuild`: the stages of a build, one after the other;
- `Setup.ends_buildAt`: how a build with a setup ends;
- `run_build`: a build command is its arguments, what it prepares, and a build with a setup;
- `run_build_of_listed`: how it runs where the paths of its modules are known;
- `ends_build`, `idle_build_of_not_reaches`: the build command, by whether it gets to its modules.
-/

namespace ClassScope.Command

/-- What a build works with once it has read its arguments and its configuration. -/
structure Setup where
  /-- The arguments. -/
  arguments : BuildArguments
  /-- The configuration. -/
  config : Config

namespace Setup

variable (setup : Setup) {tree mid final : FileTree}

/-- The build directory. -/
def root : Path := .ofText setup.arguments.root

/-- The document. -/
def document : Path := setup.root.join setup.arguments.html

/-- The class map. -/
def classMap : Path := setup.root.join classMapName

/-- The build writes a class map. -/
def live : Bool := setup.config.enabled && !setup.arguments.dryRun

/-- The changes of modules that are written. -/
def moduleChanges (tree : FileTree) (paths : List Path) : List Change :=
  setup.arguments.written (Command.moduleChanges setup.config tree paths)

/-- The change of the document that is written, on the files that the modules leave. -/
def documentChange? (mid : FileTree) : Option Change :=
  match (manifestOf setup.root setup.arguments.manifest).answer mid,
    mid.readText setup.document with
  | .ok manifest, .ok old =>
    match setup.config.finishedMarkup manifest old with
    | .ok new =>
      if new = .ofText old ∨ setup.arguments.dryRun then none else some ⟨setup.document, old, new⟩
    | .error _ => none
  | _, _ => none

/-- All modules were transformed. -/
structure ModulesDone (tree : FileTree) (paths : List Path) (mid : FileTree) : Prop where
  /-- The modules are listed. -/
  listed : modulePaths tree setup.root = .ok paths
  /-- All spare copies could be made. -/
  spared : ∀ change ∈ setup.moduleChanges tree paths, change.Spared setup.arguments.backup
  /-- All modules that change are written. -/
  rewritten : mid = rewriteAll setup.arguments.backup (setup.moduleChanges tree paths) tree

/-- The manifest and the document were read, and the document can be finished. -/
structure DocumentRead (mid : FileTree) (manifest : Manifest) (old : Text) (new : WideText) :
    Prop where
  /-- The manifest. -/
  manifestRead : (manifestOf setup.root setup.arguments.manifest).answer mid = .ok manifest
  /-- The document. -/
  documentRead : mid.readText setup.document = .ok old
  /-- The finished document. -/
  finished : setup.config.finishedMarkup manifest old = .ok new

/-- The document was written, if it changes. -/
def DocumentWritten (mid final : FileTree) : Prop :=
  match setup.documentChange? mid with
  | none => final = mid
  | some change => change.Spared setup.arguments.backup ∧
    (∃ bytes, Utf8.encodeWide change.new = .ok bytes) ∧
      final = change.apply setup.arguments.backup mid

/-- The class map of a session was written, if there should be one. -/
def ClassMapWritten (final : FileTree) (session : Session) (tree' : FileTree) : Prop :=
  if setup.live then
    final.write setup.classMap (Utf8.encode (classMapText session.registry)) = .ok tree'
  else tree' = final

/-- How a build with a setup ends on some files. -/
inductive Ends (tree : FileTree) : Except Stop Session × Workspace → Prop where
  /-- The modules cannot be listed. -/
  | unlisted {e : FileError} (h : modulePaths tree setup.root = .error e) (printed : List Text) :
    Ends tree (.error (.failed (.file e)), ⟨tree, printed⟩)
  /-- The spare copy of a module cannot be made. -/
  | unspared {paths : List Path} (hlisted : modulePaths tree setup.root = .ok paths)
    (h : ¬ ∀ change ∈ setup.moduleChanges tree paths, change.Spared setup.arguments.backup)
    (stop : Stop) (printed : List Text) :
    Ends tree (.error stop, ⟨rewriteAll setup.arguments.backup
      ((setup.moduleChanges tree paths).takeWhile fun change =>
        change.Spared setup.arguments.backup) tree, printed⟩)
  /-- The manifest or the document cannot be read, or the document cannot be finished. -/
  | unread {paths : List Path} {mid : FileTree} (hmodules : setup.ModulesDone tree paths mid)
    (h : ∀ manifest old new, ¬ setup.DocumentRead mid manifest old new)
    (stop : Stop) (printed : List Text) : Ends tree (.error stop, ⟨mid, printed⟩)
  /-- The spare copy of the document cannot be made. -/
  | documentUnspared {paths : List Path} {mid : FileTree} {change : Change}
    (hmodules : setup.ModulesDone tree paths mid)
    (hchange : setup.documentChange? mid = some change)
    (h : ¬ change.Spared setup.arguments.backup) (stop : Stop) (printed : List Text) :
    Ends tree (.error stop, ⟨mid, printed⟩)
  /-- The finished document has no bytes. -/
  | unencodable {paths : List Path} {mid : FileTree} {change : Change} {e : Utf8.Unencodable}
    (hmodules : setup.ModulesDone tree paths mid)
    (hchange : setup.documentChange? mid = some change)
    (hspared : change.Spared setup.arguments.backup)
    (h : Utf8.encodeWide change.new = .error e) (printed : List Text) :
    Ends tree (.error (.failed (.encoding e)),
      ⟨change.apply setup.arguments.backup mid, printed⟩)
  /-- The class map cannot be written. -/
  | unmapped {paths : List Path} {mid final : FileTree} {bytes : List UInt8} {e : FileError}
    (hmodules : setup.ModulesDone tree paths mid) (hdocument : setup.DocumentWritten mid final)
    (hlive : setup.live = true) (h : final.write setup.classMap bytes = .error e)
    (printed : List Text) :
    Ends tree (.error (.failed (.file e)), ⟨final, printed⟩)
  /-- All is done. -/
  | done {paths : List Path} {mid final tree' : FileTree} {manifest : Manifest} {old : Text}
    {new : WideText} (hmodules : setup.ModulesDone tree paths mid)
    (hread : setup.DocumentRead mid manifest old new)
    (hdocument : setup.DocumentWritten mid final)
    (hmap : setup.ClassMapWritten final
      (Build.finalSession setup.config (sourcesAt tree paths) old manifest) tree')
    (printed : List Text) :
    Ends tree (.ok (Build.finalSession setup.config (sourcesAt tree paths) old manifest),
      ⟨tree', printed ++ [summary setup.arguments.dryRun
        (Command.moduleChanges setup.config tree paths).length (decide (new ≠ .ofText old))
        (Build.finalSession setup.config (sourcesAt tree paths) old manifest)]⟩)

end Setup

namespace Setup

variable {setup : Setup} {tree mid final : FileTree}

/-- A build is live when names are put in scope and it is no dry run. -/
theorem live_iff : setup.live = true ↔
    setup.config.enabled = true ∧ setup.arguments.dryRun = false := by
  rw [live, Bool.and_eq_true, Bool.not_eq_true']

/-- What changes in the document was read and finished before. -/
theorem documentChange?_eq_some {change : Change} (h : setup.documentChange? mid = some change) :
    ∃ manifest old new, setup.DocumentRead mid manifest old new ∧
      change = ⟨setup.document, old, new⟩ ∧ new ≠ .ofText old ∧
        setup.arguments.dryRun = false := by
  unfold documentChange? at h
  split at h
  · rename_i manifest old hmanifest hold
    split at h
    · rename_i new hnew
      split at h
      · cases h
      · rename_i hchanges
        rw [not_or, Bool.not_eq_true] at hchanges
        exact ⟨manifest, old, new, ⟨hmanifest, hold, hnew⟩, (Option.some.inj h).symm, hchanges⟩
    · cases h
  · cases h

theorem exists_file_of_documentChange? {change : Change}
    (h : setup.documentChange? mid = some change) :
    ∃ place bytes, mid.locate change.path = .ok place ∧
      mid.standing? place = some (.file bytes) := by
  obtain ⟨manifest, old, new, hread, rfl, -⟩ := documentChange?_eq_some h
  exact FileTree.exists_file_of_readText hread.documentRead

/-- Changes of modules that are written are of files of the tree, each of another one. -/
theorem changesAt_moduleChanges {paths : List Path} (h : modulePaths tree setup.root = .ok paths) :
    ChangesAt tree (setup.moduleChanges tree paths) := by
  have hall : ChangesAt tree (Command.moduleChanges setup.config tree paths) :=
    Command.changesAt_moduleChanges (filesAt_modulePaths h)
  rw [moduleChanges, BuildArguments.written]
  split
  · exact hall.sublist (List.nil_sublist _)
  · exact hall

/-- What is written of modules are changes of modules. -/
theorem of_mem_moduleChanges {paths : List Path} {change : Change}
    (h : change ∈ setup.moduleChanges tree paths) :
    change.path ∈ paths ∧ moduleChange? setup.config tree change.path = some change := by
  rw [moduleChanges, BuildArguments.written] at h
  split at h
  · cases h
  · obtain ⟨path, hpath, hchange⟩ := List.mem_filterMap.1 h
    obtain rfl : change.path = path := by rw [(moduleChange?_eq_some hchange).1]
    exact ⟨hpath, hchange⟩

theorem ModulesDone.sameDirectories {paths : List Path} (h : setup.ModulesDone tree paths mid) :
    tree.SameDirectories mid := by
  rw [h.rewritten]
  exact (changesAt_moduleChanges h.listed).sameDirectories _

theorem DocumentWritten.sameDirectories (h : setup.DocumentWritten mid final) :
    mid.SameDirectories final := by
  unfold DocumentWritten at h
  split at h
  · rw [h]
    exact .refl mid
  · rename_i change hchange
    obtain ⟨place, bytes, hplace, hfile⟩ := exists_file_of_documentChange? hchange
    rw [h.2.2]
    exact Change.sameDirectories_apply _ hplace hfile

end Setup

/-! ## The stages of a build -/

variable {tree : FileTree} {printed : List Text}

/-- The end of a build: the class map and the last line. -/
def closeBuild (arguments : BuildArguments) (root : Path) (changed : Nat)
    (changesDocument : Bool) (session : Session) : Job Session := do
  if session.enabled ∧ !arguments.dryRun then
    let classMap := root.join classMapName
    Job.writeFile classMap (.ofText (classMapText session.registry))
    Job.print (Text.of "[PREFIX] Class map: " ++ classMap.text)
  Job.print (summary arguments.dryRun changed changesDocument session)
  return session

/-- Writing the document of a build, if it changes. -/
def writeDocument (arguments : BuildArguments) (root document : Path) (changed : Nat)
    (old : Text) (new : WideText) (session : Session) : Job Session := do
  let changesDocument : Bool := new ≠ .ofText old
  if changesDocument ∧ !arguments.dryRun then
    let _ ← Job.writeChanged document new old arguments.backup
  closeBuild arguments root changed changesDocument session

/-- The document of a build, after the manifest was read. -/
def finishDocument (arguments : BuildArguments) (root document : Path) (session : Session)
    (changed : Nat) (manifest : Manifest) : Job Session := do
  let session ← Job.orFail .order (session.bundle manifest)
  let old ← Job.orFail .file ((← Job.tree).readText document)
  let (outcome, session) ← Job.orFail .order (session.finish old)
  let new ← Job.orFail .value outcome
  writeDocument arguments root document changed old new session

section Manifest

variable {α : Type} {root : Path} {given : Option Text}

/-- Reading the manifest with the line on it, and what follows. -/
def withManifest (root : Path) (given : Option Text) (next : Manifest → Job α) : Job α := do
  let manifestPath ← locateManifest root given
  let manifest ← readManifest manifestPath
  if let some path := manifestPath then
    Job.print (Text.of "[MANIFEST] " ++ path.text ++ Text.of ": " ++
      decimal manifest.length ++ Text.of " entries")
  next manifest

/-- The manifest, read with the line on it. -/
def announceManifest (root : Path) (given : Option Text) : Job Manifest :=
  withManifest root given pure

/-- What follows the manifest comes after it was read. -/
theorem withManifest_eq (next : Manifest → Job α) :
    withManifest root given next = announceManifest root given >>= next := by
  simp only [announceManifest, withManifest, bind_assoc]
  refine congrArg _ (funext fun path => congrArg _ (funext fun manifest => ?_))
  cases path <;> simp

/-- The line on a manifest changes no file. -/
theorem readsOnly_announcement (path : Option Path) (manifest : Manifest) :
    (do
      if let some path := path then
        Job.print (Text.of "[MANIFEST] " ++ path.text ++ Text.of ": " ++
          decimal manifest.length ++ Text.of " entries")
      pure manifest : Job Manifest).ReadsOnly := by
  cases path with
  | none => exact Job.readsOnly_pure _
  | some path => exact (Job.readsOnly_print _).bind fun _ => Job.readsOnly_pure _

theorem readsOnly_announceManifest (root : Path) (given : Option Text) :
    (announceManifest root given).ReadsOnly :=
  (readsOnly_locateManifest root given).bind fun path =>
    (readsOnly_readManifest path).bind (readsOnly_announcement path)

/-- The line on the manifest does not change what is read. -/
theorem answer_announceManifest (root : Path) (given : Option Text) (tree : FileTree) :
    (announceManifest root given).answer tree = (manifestOf root given).answer tree := by
  rw [announceManifest, withManifest, manifestOf,
    (readsOnly_locateManifest root given).answer_bind readsOnly_readManifest,
    (readsOnly_locateManifest root given).answer_bind fun path =>
      (readsOnly_readManifest path).bind (readsOnly_announcement path)]
  refine congrArg _ (funext fun path => ?_)
  rw [(readsOnly_readManifest path).answer_bind (readsOnly_announcement path)]
  cases path <;> cases (readManifest _).answer tree <;> rfl

/-- The same manifest is announced in trees in which the same is seen at the end of the path that is
given, or else of the paths where one is looked for. -/
theorem alike_announceManifest {tree' : FileTree}
    (hgiven : ∀ path, path? given = some path → tree'.look path = tree.look path)
    (hfound : path? given = none →
      ∀ path ∈ manifestPlaces.map root.join, tree'.look path = tree.look path) :
    (announceManifest root given).Alike tree tree' := by
  refine alike_locateManifest_bind hgiven hfound ?_ fun path hlook => ?_
  · exact Job.Alike.bind (.pure _ _ _) fun _ _ => .pure _ _ _
  · refine (alike_readManifest hlook).bind fun manifest _ => ?_
    exact Job.Alike.bind (.print _ _ _) fun _ _ => .pure _ _ _

/-- What follows the manifest goes on with the same files; where the manifest cannot be read,
nothing follows. -/
theorem run_withManifest (next : Manifest → Job α) (tree : FileTree) (printed : List Text) :
    (withManifest root given next).run ⟨tree, printed⟩ =
      match (manifestOf root given).answer tree with
      | .ok manifest =>
        (next manifest).run ⟨tree, printed ++ (announceManifest root given).lines tree⟩
      | .error stop =>
        (.error stop, ⟨tree, printed ++ (announceManifest root given).lines tree⟩) := by
  rw [withManifest_eq, ← answer_announceManifest]
  cases hanswer : (announceManifest root given).answer tree with
  | ok manifest => exact (readsOnly_announceManifest root given).run_bind_ok hanswer
  | error stop => exact (readsOnly_announceManifest root given).run_bind_error hanswer

end Manifest

/-- A build is its modules, its manifest and its document. -/
theorem buildAt_eq (arguments : BuildArguments) (config : Config) (root document : Path) :
    buildAt arguments config root document = (do
      let modules ← Job.orFail .file (modulePaths (← Job.tree) root)
      let (session, changed) ← transformModules arguments (.start config) 0 modules
      withManifest root arguments.manifest
        (finishDocument arguments root document session changed)) := rfl

namespace Setup

variable (setup : Setup) {mid final : FileTree} {paths : List Path} {manifest : Manifest}
  {old : Text} {new : WideText}

/-- The line on the class map, if one is written. -/
def mapLines : List Text :=
  if setup.live then [Text.of "[PREFIX] Class map: " ++ setup.classMap.text] else []

/-- How a build ends after its document was written, with the class map or without. -/
theorem run_closeBuild (changed : Nat) (changesDocument : Bool) {session : Session}
    (henabled : session.enabled = setup.config.enabled) (final : FileTree) (printed : List Text) :
    (closeBuild setup.arguments setup.root changed changesDocument session).run ⟨final, printed⟩ =
      match (if setup.live then
          final.write setup.classMap (Utf8.encode (classMapText session.registry))
        else .ok final) with
      | .error e => (.error (.failed (.file e)), ⟨final, printed⟩)
      | .ok tree' => (.ok session, ⟨tree', printed ++ setup.mapLines ++
          [summary setup.arguments.dryRun changed changesDocument session]⟩) := by
  rw [closeBuild, henabled, mapLines]
  -- The class map and the line on it are left out together.
  by_cases hlive : setup.live = true
  · have hboth : setup.config.enabled = true ∧ (!setup.arguments.dryRun) = true := by
      simpa using live_iff.1 hlive
    have hfile := run_writeFile (setup.root.join classMapName)
      (.ofText (classMapText session.registry)) final printed
    rw [WideText.written_ofText, Utf8.encodeWide_ofText, FileTree.afterWrite] at hfile
    rw [if_pos hboth, if_pos hlive, if_pos hlive, classMap]
    dsimp only
    cases hwrite : final.write (setup.root.join classMapName)
        (Utf8.encode (classMapText session.registry)) with
    | error e =>
      rw [hwrite] at hfile
      exact Job.run_bind_error hfile
    | ok tree' =>
      rw [hwrite] at hfile
      exact Job.run_bind_ok hfile
  · have hboth : ¬ (setup.config.enabled = true ∧ (!setup.arguments.dryRun) = true) := by
      simpa using mt live_iff.2 hlive
    rw [if_neg hboth, if_neg hlive, if_neg hlive, List.append_nil]
    rfl

/-- How a build goes on after its document was read. -/
theorem run_writeDocument (changed : Nat) (session : Session)
    (hread : setup.DocumentRead mid manifest old new) (printed : List Text) :
    (writeDocument setup.arguments setup.root setup.document changed old new session).run
        ⟨mid, printed⟩ =
      match setup.documentChange? mid with
      | none =>
        (closeBuild setup.arguments setup.root changed (decide (new ≠ .ofText old)) session).run
          ⟨mid, printed⟩
      | some change =>
        if change.Spared setup.arguments.backup then
          match Utf8.encodeWide change.new with
          | .ok _ =>
            (closeBuild setup.arguments setup.root changed (decide (new ≠ .ofText old)) session).run
              ⟨change.apply setup.arguments.backup mid, printed⟩
          | .error e => (.error (.failed (.encoding e)),
              ⟨change.apply setup.arguments.backup mid, printed⟩)
        else (.error (.failed (.file ⟨.nameTooLong, change.path.spare⟩)), ⟨mid, printed⟩) := by
  have hchange : setup.documentChange? mid =
      if new = .ofText old ∨ setup.arguments.dryRun then none
      else some ⟨setup.document, old, new⟩ := by
    simp only [documentChange?, hread.manifestRead, hread.documentRead, hread.finished]
  rw [writeDocument, hchange]
  dsimp only
  -- The document is left alone if it stays the same, and in a dry run.
  by_cases hkeep : new = .ofText old ∨ setup.arguments.dryRun
  · rw [if_pos hkeep, if_neg (by simpa [or_iff_not_imp_left] using hkeep)]
  · obtain ⟨place, bytes, hplace, hfile⟩ := FileTree.exists_file_of_readText hread.documentRead
    have hwrite := Change.run_writeChanged ⟨setup.document, old, new⟩ setup.arguments.backup hplace
      hfile (fun h => hkeep (.inl h)) printed
    rw [if_neg hkeep, if_pos (by simpa using hkeep)]
    dsimp only
    by_cases hspared : (⟨setup.document, old, new⟩ : Change).Spared setup.arguments.backup
    · rw [if_pos hspared] at hwrite ⊢
      cases hencode : Utf8.encodeWide new with
      | error e =>
        rw [hencode] at hwrite
        exact Job.run_bind_error hwrite
      | ok encoded =>
        rw [hencode] at hwrite
        exact Job.run_bind_ok hwrite
    · rw [if_neg hspared] at hwrite ⊢
      exact Job.run_bind_error hwrite

/-- How a build goes on after its manifest was read. -/
theorem run_finishDocument (changed : Nat) (sources : List (Text × Text)) (manifest : Manifest)
    (mid : FileTree) (printed : List Text) :
    (finishDocument setup.arguments setup.root setup.document
        ((Session.start setup.config).afterModules sources) changed manifest).run ⟨mid, printed⟩ =
      match mid.readText setup.document with
      | .error e => (.error (.failed (.file e)), ⟨mid, printed⟩)
      | .ok old =>
        match setup.config.finishedMarkup manifest old with
        | .error e => (.error (.failed (.value e)), ⟨mid, printed⟩)
        | .ok new =>
          (writeDocument setup.arguments setup.root setup.document changed old new
            (Build.finalSession setup.config sources old manifest)).run ⟨mid, printed⟩ := by
  have hallowed := Session.allowedIn_afterModules (Session.start setup.config) rfl sources
  rw [finishDocument, Session.bundle_eq hallowed, Job.run_bind, Job.run_orFail, mapError_ok]
  dsimp only
  rw [Job.run_bind_ok (Job.run_tree _), Job.run_bind, Job.run_orFail]
  dsimp only
  cases hold : mid.readText setup.document with
  | error e => rfl
  | ok old =>
    rw [mapError_ok]
    dsimp only
    -- The hooks are called in order, so finishing depends on the settings that name the image only.
    rw [Build.finish_afterModules, Job.run_bind, Job.run_orFail, mapError_ok]
    dsimp only
    cases hnew : setup.config.finishedMarkup manifest old with
    | error e => rfl
    | ok new =>
      rw [Job.run_bind, Job.run_orFail, mapError_ok]
      rfl

/-- What a build does once its modules are listed. -/
def afterListing (paths : List Path) : Job Session := do
  let (session, changed) ← transformModules setup.arguments (.start setup.config) 0 paths
  withManifest setup.root setup.arguments.manifest
    (finishDocument setup.arguments setup.root setup.document session changed)

/-- A build lists its modules and goes on. -/
theorem run_buildAt_of_listed (hlisted : modulePaths tree setup.root = .ok paths)
    (printed : List Text) :
    (buildAt setup.arguments setup.config setup.root setup.document).run ⟨tree, printed⟩ =
      (setup.afterListing paths).run ⟨tree, printed⟩ := by
  rw [buildAt_eq, Job.run_bind_ok (Job.run_tree _), Job.run_bind, Job.run_orFail, hlisted,
    mapError_ok]
  rfl

/-- How a build goes on after its modules were listed: the first module whose spare copy cannot be
made ends it, with the modules before it written. -/
theorem run_buildAt (hlisted : modulePaths tree setup.root = .ok paths) (printed : List Text) :
    (∃ change ∈ setup.moduleChanges tree paths, ¬ change.Spared setup.arguments.backup ∧
      (buildAt setup.arguments setup.config setup.root setup.document).run ⟨tree, printed⟩ =
        (.error (.failed (.file ⟨.nameTooLong, change.path.spare⟩)),
          ⟨rewriteAll setup.arguments.backup ((setup.moduleChanges tree paths).takeWhile
            fun change => change.Spared setup.arguments.backup) tree, printed⟩)) ∨
    ∃ mid, setup.ModulesDone tree paths mid ∧
      (buildAt setup.arguments setup.config setup.root setup.document).run ⟨tree, printed⟩ =
        (withManifest setup.root setup.arguments.manifest
          (finishDocument setup.arguments setup.root setup.document
            ((Session.start setup.config).afterModules (sourcesAt tree paths))
            (Command.moduleChanges setup.config tree paths).length)).run ⟨mid, printed⟩ := by
  have hmodules := run_transformModules setup.arguments 0 printed (filesAt_modulePaths hlisted)
    (Session.consistent_start setup.config) rfl
  dsimp only at hmodules
  rw [Session.config_start, Nat.zero_add, ← moduleChanges] at hmodules
  rw [setup.run_buildAt_of_listed hlisted, afterListing]
  cases hfind : (setup.moduleChanges tree paths).find? fun change =>
      !change.Spared setup.arguments.backup with
  | some change =>
    refine .inl ⟨change, List.mem_of_find?_eq_some hfind, ?_, ?_⟩
    · simpa using List.find?_some hfind
    · rw [hfind] at hmodules
      exact Job.run_bind_error hmodules
  | none =>
    have hspared : ∀ change ∈ setup.moduleChanges tree paths,
        change.Spared setup.arguments.backup := by
      intro change hchange
      simpa using List.find?_eq_none.1 hfind change hchange
    have hall : (setup.moduleChanges tree paths).takeWhile
        (fun change => change.Spared setup.arguments.backup) = setup.moduleChanges tree paths :=
      List.takeWhile_eq_self_iff.2 fun change hchange => by simp [hspared change hchange]
    refine .inr ⟨_, ⟨hlisted, hspared, rfl⟩, ?_⟩
    rw [hfind, hall] at hmodules
    rw [Job.run_bind_ok hmodules]

/-- After the document was written, a build ends with its class map or without. -/
theorem ends_closeBuild (hmodules : setup.ModulesDone tree paths mid)
    (hread : setup.DocumentRead mid manifest old new) (hdocument : setup.DocumentWritten mid final)
    (printed : List Text) :
    setup.Ends tree ((closeBuild setup.arguments setup.root
      (Command.moduleChanges setup.config tree paths).length (decide (new ≠ .ofText old))
      (Build.finalSession setup.config (sourcesAt tree paths) old manifest)).run
        ⟨final, printed⟩) := by
  have hdone := fun tree' (hmap : setup.ClassMapWritten final _ tree') =>
    Ends.done hmodules hread hdocument hmap
  obtain ⟨session, hsession⟩ : ∃ session, session =
    Build.finalSession setup.config (sourcesAt tree paths) old manifest := ⟨_, rfl⟩
  rw [← hsession] at hdone ⊢
  rw [run_closeBuild setup _ _ (by rw [hsession]; rfl)]
  by_cases hlive : setup.live = true
  · rw [if_pos hlive]
    cases hwrite : final.write setup.classMap (Utf8.encode (classMapText session.registry)) with
    | error e => exact .unmapped hmodules hdocument hlive hwrite printed
    | ok tree' => exact hdone tree' (by rw [ClassMapWritten, if_pos hlive, hwrite]) _
  · rw [if_neg hlive]
    exact hdone final (by rw [ClassMapWritten, if_neg hlive]) _

/-- After the document was read, a build ends where it cannot be written, or goes on to its class
map. -/
theorem ends_writeDocument (hmodules : setup.ModulesDone tree paths mid)
    (hread : setup.DocumentRead mid manifest old new) (printed : List Text) :
    setup.Ends tree ((writeDocument setup.arguments setup.root setup.document
      (Command.moduleChanges setup.config tree paths).length old new
      (Build.finalSession setup.config (sourcesAt tree paths) old manifest)).run
        ⟨mid, printed⟩) := by
  have hclose := fun final (hdocument : setup.DocumentWritten mid final) =>
    ends_closeBuild setup hmodules hread hdocument printed
  rw [run_writeDocument setup _ _ hread]
  cases hchange : setup.documentChange? mid with
  | none => exact hclose mid (by rw [DocumentWritten, hchange])
  | some change =>
    dsimp only
    by_cases hspared : change.Spared setup.arguments.backup
    · rw [if_pos hspared]
      cases hencode : Utf8.encodeWide change.new with
      | error e => exact .unencodable hmodules hchange hspared hencode printed
      | ok bytes =>
        refine hclose _ ?_
        rw [DocumentWritten, hchange]
        exact ⟨hspared, ⟨bytes, hencode⟩, rfl⟩
    · rw [if_neg hspared]
      exact .documentUnspared hmodules hchange hspared _ printed

/-- After the modules were transformed, a build ends where the manifest or the document cannot be
read or the document cannot be finished, or goes on to writing it. -/
theorem ends_withManifest (hmodules : setup.ModulesDone tree paths mid) (printed : List Text) :
    setup.Ends tree ((withManifest setup.root setup.arguments.manifest
      (finishDocument setup.arguments setup.root setup.document
        ((Session.start setup.config).afterModules (sourcesAt tree paths))
        (Command.moduleChanges setup.config tree paths).length)).run ⟨mid, printed⟩) := by
  have hunread := fun h stop printed => Ends.unread hmodules h stop printed
  rw [run_withManifest]
  cases hmanifest : (manifestOf setup.root setup.arguments.manifest).answer mid with
  | error stop =>
    refine hunread (fun manifest old new h => ?_) stop _
    cases hmanifest.symm.trans h.manifestRead
  | ok manifest =>
    dsimp only
    rw [run_finishDocument]
    cases hold : mid.readText setup.document with
    | error e =>
      refine hunread (fun manifest' old new h => ?_) _ _
      cases hold.symm.trans h.documentRead
    | ok old =>
      dsimp only
      cases hnew : setup.config.finishedMarkup manifest old with
      | error e =>
        refine hunread (fun manifest' old' new h => ?_) _ _
        cases Except.ok.inj (hmanifest.symm.trans h.manifestRead)
        cases Except.ok.inj (hold.symm.trans h.documentRead)
        cases hnew.symm.trans h.finished
      | ok new => exact ends_writeDocument setup hmodules ⟨hmanifest, hold, hnew⟩ _

/-- A build with a setup ends in one of the ways listed. -/
theorem ends_buildAt (tree : FileTree) (printed : List Text) :
    setup.Ends tree
      ((buildAt setup.arguments setup.config setup.root setup.document).run ⟨tree, printed⟩) := by
  cases hlisted : modulePaths tree setup.root with
  | error e =>
    rw [buildAt_eq, Job.run_bind_ok (Job.run_tree _), Job.run_bind, Job.run_orFail, hlisted]
    exact .unlisted hlisted printed
  | ok paths =>
    rcases setup.run_buildAt hlisted printed with
      ⟨change, hchange, hunspared, hrun⟩ | ⟨mid, hmodules, hrun⟩
    · rw [hrun]
      exact .unspared hlisted (fun hall => hunspared (hall change hchange)) _ printed
    · rw [hrun]
      exact ends_withManifest setup hmodules printed

end Setup

/-! ## The build command -/

variable {argv : List Text} {environment : Environment} {setup : Setup}

/-- The build command gets to its modules, with a setup. -/
structure Setup.Reaches (setup : Setup) (argv : List Text) (environment : Environment)
    (tree : FileTree) : Prop where
  /-- The arguments make sense. -/
  arguments : ∃ given, buildOptions.read argv = .ok given ∧ given.help = false ∧
    BuildArguments.ofGiven given = .ok setup.arguments
  /-- Something stands where the document should. -/
  document : tree.has setup.document = .ok true
  /-- The configuration can be read. -/
  config : (readConfig environment setup.arguments.envFile setup.arguments.overrides).answer tree =
    .ok setup.config
  /-- No class map is there, if that matters. -/
  unmarked : setup.config.enabled = true → tree.has setup.classMap = .ok false

/-- The arguments that a command line gives, or why it gives none. -/
def argumentsFrom (argv : List Text) : Except Stop BuildArguments :=
  match buildOptions.read argv with
  | .error e => .error (.usage e)
  | .ok given =>
    if given.help then .error .help
    else (BuildArguments.ofGiven given).mapError fun e => .failed (.value e)

theorem argumentsFrom_eq_ok {arguments : BuildArguments} :
    argumentsFrom argv = .ok arguments ↔
      ∃ given, buildOptions.read argv = .ok given ∧ given.help = false ∧
        BuildArguments.ofGiven given = .ok arguments := by
  unfold argumentsFrom
  cases buildOptions.read argv with
  | error e => simp
  | ok given => cases hhelp : given.help <;> simp [hhelp]

/-- The configuration that a build goes on with: none where a class map keeps it from putting names
in scope again. -/
def unlessMarked (root : Path) (config : Config) : Job (Option Config) := do
  if config.enabled then
    let classMap := root.join classMapName
    if ← Job.has classMap then
      Job.print (Text.of "[PREFIX] Skip: " ++ classMap.text ++ Text.of " exists, " ++ root.text ++
        Text.of " was already prefixed")
      return none
    else return some config
  else return some config

/-- Reading the configuration of a build, with the lines on it. -/
def configure (arguments : BuildArguments) (environment : Environment) : Job (Option Config) := do
  let config ← readConfig environment arguments.envFile arguments.overrides
  (configLines config).forM Job.print
  unlessMarked (.ofText arguments.root) config

/-- What a build checks and reads before it gets to its modules. It gives the configuration, unless
the directory is passed over. -/
def prepare (arguments : BuildArguments) (environment : Environment) : Job (Option Config) := do
  let root := Path.ofText arguments.root
  if ← Job.has (root.join arguments.html) then configure arguments environment
  else throw (.refused (arguments.html ++ Text.of " not found under " ++ root.text))

/-- A build command is its preparation and a build. -/
theorem build_eq (argv : List Text) (environment : Environment) :
    build argv environment = (do
      let given ← readArguments buildOptions argv
      let arguments ← Job.orFail .value (BuildArguments.ofGiven given)
      let root := Path.ofText arguments.root
      match ← prepare arguments environment with
      | none => return none
      | some config =>
        return some (← buildAt arguments config root (root.join arguments.html))) := by
  rw [build]
  refine congrArg _ (funext fun given => congrArg _ (funext fun arguments => ?_))
  simp only [buildWith, prepare, bind_assoc]
  refine congrArg _ (funext fun standing => ?_)
  cases standing with
  | false => rfl
  | true =>
    rw [if_neg (by simp), if_pos rfl, configure]
    simp only [bind_assoc]
    refine congrArg _ (funext fun config => congrArg _ (funext fun _ => ?_))
    rw [unlessMarked]
    -- A class map is asked for only when names are to be put in scope.
    cases config.enabled with
    | false => rfl
    | true =>
      rw [if_pos rfl, if_pos rfl, bind_assoc]
      refine congrArg _ (funext fun marked => ?_)
      cases marked <;> rfl

theorem readsOnly_unlessMarked (root : Path) (config : Config) :
    (unlessMarked root config).ReadsOnly := by
  unfold unlessMarked
  split
  · refine (readsOnly_has _).bind fun marked => ?_
    split
    · exact (Job.readsOnly_print _).bind fun _ => Job.readsOnly_pure _
    · exact Job.readsOnly_pure _
  · exact Job.readsOnly_pure _

theorem readsOnly_configure (arguments : BuildArguments) (environment : Environment) :
    (configure arguments environment).ReadsOnly :=
  (readsOnly_readConfig _ _ _).bind fun _ =>
    (readsOnly_printAll _).bind fun _ => readsOnly_unlessMarked _ _

theorem readsOnly_prepare (arguments : BuildArguments) (environment : Environment) :
    (prepare arguments environment).ReadsOnly := by
  refine (readsOnly_has _).bind fun standing => ?_
  split
  · exact readsOnly_configure _ _
  · exact Job.readsOnly_throw _

theorem answer_unlessMarked_eq_some {root : Path} {config config' : Config} :
    (unlessMarked root config).answer tree = .ok (some config') ↔
      config' = config ∧
        (config.enabled = true → tree.has (root.join classMapName) = .ok false) := by
  unfold unlessMarked
  by_cases henabled : config.enabled = true
  · rw [if_pos henabled, Job.answer, Job.run_bind, Job.run_has]
    -- What is seen in the place of the class map decides.
    cases tree.has (root.join classMapName) with
    | error e => simp [henabled]
    | ok marked =>
      cases marked with
      | true =>
        refine ⟨fun h => ?_, fun h => ?_⟩
        · cases h
        · cases h.2 henabled
      | false =>
        refine ⟨fun h => ?_, fun h => by rw [h.1]; rfl⟩
        cases h
        exact ⟨rfl, fun _ => rfl⟩
  · rw [if_neg henabled]
    refine ⟨fun h => ?_, fun h => by rw [h.1]; rfl⟩
    cases h
    exact ⟨rfl, fun h => absurd h henabled⟩

/-- A build goes on with the configuration that it reads if there is a document and, where that
matters, no class map. -/
theorem answer_prepare_eq_some {config : Config} :
    (prepare setup.arguments environment).answer tree = .ok (some config) ↔
      tree.has setup.document = .ok true ∧
        (readConfig environment setup.arguments.envFile setup.arguments.overrides).answer tree =
          .ok config ∧
        (config.enabled = true → tree.has setup.classMap = .ok false) := by
  have hconfigure : (configure setup.arguments environment).answer tree = .ok (some config) ↔
      (readConfig environment setup.arguments.envFile setup.arguments.overrides).answer tree =
          .ok config ∧
        (config.enabled = true → tree.has setup.classMap = .ok false) := by
    rw [configure, (readsOnly_readConfig _ _ _).answer_bind fun _ =>
      (readsOnly_printAll _).bind fun _ => readsOnly_unlessMarked _ _, bind_eq_ok]
    constructor
    · rintro ⟨found, hread, hfound⟩
      rw [(readsOnly_printAll _).answer_bind fun _ => readsOnly_unlessMarked _ _,
        answer_printAll, ok_bind, answer_unlessMarked_eq_some] at hfound
      obtain ⟨rfl, hunmarked⟩ := hfound
      exact ⟨hread, hunmarked⟩
    · rintro ⟨hread, hunmarked⟩
      refine ⟨config, hread, ?_⟩
      rw [(readsOnly_printAll _).answer_bind fun _ => readsOnly_unlessMarked _ _,
        answer_printAll, ok_bind, answer_unlessMarked_eq_some]
      exact ⟨rfl, hunmarked⟩
  rw [← hconfigure, prepare, Job.answer, Job.run_bind, Job.run_has, Setup.document, Setup.root]
  cases tree.has ((Path.ofText setup.arguments.root).join setup.arguments.html) with
  | error e => simp
  | ok standing => cases standing <;> simp [Job.answer]

/-- How a build command runs. -/
theorem run_build (argv : List Text) (environment : Environment) (tree : FileTree)
    (printed : List Text) :
    (build argv environment).run ⟨tree, printed⟩ =
      match argumentsFrom argv with
      | .error stop => (.error stop, ⟨tree, printed⟩)
      | .ok arguments =>
        let printed := printed ++ (prepare arguments environment).lines tree
        match (prepare arguments environment).answer tree with
        | .error stop => (.error stop, ⟨tree, printed⟩)
        | .ok none => (.ok none, ⟨tree, printed⟩)
        | .ok (some config) =>
          let setup : Setup := ⟨arguments, config⟩
          let outcome :=
            (buildAt arguments config setup.root setup.document).run ⟨tree, printed⟩
          (outcome.1.map some, outcome.2) := by
  rw [build_eq, argumentsFrom, readArguments]
  cases buildOptions.read argv with
  | error e => rfl
  | ok given =>
    dsimp only
    cases given.help with
    | true => rfl
    | false =>
      rw [if_neg Bool.false_ne_true, if_neg Bool.false_ne_true, pure_bind]
      cases BuildArguments.ofGiven given with
      | error e => rfl
      | ok arguments =>
        change (prepare arguments environment >>= _).run _ = _
        rw [mapError_ok]
        dsimp only
        cases hprepare : (prepare arguments environment).answer tree with
        | error stop =>
          exact (readsOnly_prepare _ _).run_bind_error hprepare
        | ok found =>
          rw [(readsOnly_prepare _ _).run_bind_ok hprepare]
          cases found with
          | none => rfl
          | some config =>
            dsimp only
            rw [Job.run_bind, Setup.document, Setup.root]
            rcases (buildAt arguments config _ _).run _ with ⟨stop | session, space⟩ <;> rfl

theorem reaches_iff :
    setup.Reaches argv environment tree ↔ argumentsFrom argv = .ok setup.arguments ∧
      (prepare setup.arguments environment).answer tree = .ok (some setup.config) := by
  rw [answer_prepare_eq_some, argumentsFrom_eq_ok]
  exact ⟨fun h => ⟨h.arguments, h.document, h.config, h.unmarked⟩,
    fun ⟨harguments, hdocument, hconfig, hunmarked⟩ =>
      ⟨harguments, hdocument, hconfig, hunmarked⟩⟩

/-- A command that gets to its modules runs as a build with its setup does. -/
theorem run_build_of_reaches (h : setup.Reaches argv environment tree) (printed : List Text) :
    (build argv environment).run ⟨tree, printed⟩ =
      let outcome := (buildAt setup.arguments setup.config setup.root setup.document).run
        ⟨tree, printed ++ (prepare setup.arguments environment).lines tree⟩
      (outcome.1.map some, outcome.2) := by
  obtain ⟨harguments, hprepare⟩ := reaches_iff.1 h
  rw [run_build, harguments]
  dsimp only
  rw [hprepare]

/-- The same command, where the paths of its modules are known. -/
theorem run_build_of_listed {paths : List Path} (h : setup.Reaches argv environment tree)
    (hlisted : modulePaths tree setup.root = .ok paths) (printed : List Text) :
    (build argv environment).run ⟨tree, printed⟩ =
      let outcome := (setup.afterListing paths).run
        ⟨tree, printed ++ (prepare setup.arguments environment).lines tree⟩
      (outcome.1.map some, outcome.2) := by
  rw [run_build_of_reaches h, setup.run_buildAt_of_listed hlisted]

/-- A command that gets to its modules ends as a build with its setup does. -/
theorem ends_build (h : setup.Reaches argv environment tree) (printed : List Text) :
    ∃ outcome, setup.Ends tree outcome ∧
      (build argv environment).run ⟨tree, printed⟩ = (outcome.1.map some, outcome.2) :=
  ⟨_, setup.ends_buildAt tree _, run_build_of_reaches h printed⟩

/-- Nothing was written, and there is no session. -/
structure Idle (tree : FileTree) (outcome : Except Stop (Option Session) × Workspace) : Prop where
  /-- The files are as they were. -/
  tree : outcome.2.tree = tree
  /-- There is no session. -/
  none : ∀ session, outcome.1 ≠ .ok (some session)

theorem idle_stop (tree : FileTree) (stop : Stop) (printed : List Text) :
    Idle tree (.error stop, ⟨tree, printed⟩) := ⟨rfl, by simp⟩

/-- A command that does not get to its modules writes nothing and gives no session. -/
theorem idle_build_of_not_reaches (h : ∀ setup : Setup, ¬ setup.Reaches argv environment tree)
    (printed : List Text) : Idle tree ((build argv environment).run ⟨tree, printed⟩) := by
  rw [run_build]
  cases harguments : argumentsFrom argv with
  | error stop => exact idle_stop tree stop printed
  | ok arguments =>
    dsimp only
    cases hprepare : (prepare arguments environment).answer tree with
    | error stop => exact idle_stop tree stop _
    | ok found =>
      cases found with
      | none => exact ⟨rfl, by simp⟩
      | some config =>
        have hreaches : (⟨arguments, config⟩ : Setup).Reaches argv environment tree :=
          reaches_iff.2 ⟨harguments, hprepare⟩
        exact absurd hreaches (h ⟨arguments, config⟩)

/-! ## A site -/

/-- A site with an empty document, a stylesheet and a manifest with unusable names. -/
def sheetSite : FileTree :=
  [("d/a.css", ".a\x7b\x7d"), ("d/index.html", ""),
    ("d/manifest.json",
      "\x7b\"x\":\x7b\"type\":\"asset\",\"originalFileNames\":1\x7d\x7d")].foldl
    (fun tree file => tree.addFile (.ofText (Text.of file.1)) (Utf8.encode (Text.of file.2)))
    .empty

/-- The path of the stylesheet. -/
def sheetPath : Path := ⟨[], [Text.of "d", Text.of "a.css"]⟩

/-- The stylesheet is the only module. -/
theorem modulePaths_sheetSite :
    modulePaths sheetSite (.ofText (Text.of "d")) = .ok [sheetPath] := by
  have hroot : sheetSite.locate (.ofText (Text.of "d")) = .ok (.inside [['d']]) := by
    decide +kernel
  have hbelow : (sheetSite.below [['d']]).map Prod.fst =
      [[Text.of "a.css"], [Text.of "index.html"], [Text.of "manifest.json"]] :=
    FileTree.names_below_eq (by decide +kernel) (by decide +kernel) (by decide +kernel)
  rw [modulePaths_of_below hroot hbelow]
  decide +kernel

/-- What a build works with that is given a directory and maybe a manifest. -/
def plainSetup (manifest : Option Text) : Setup where
  arguments := { root := Text.of "d", manifest }
  config := {}

end ClassScope.Command
