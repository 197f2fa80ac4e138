import ClassScope.Proofs.Command.BuildRun
import ClassScope.Proofs.Command.ClassMap

/-!
# Running a build again

A build directory is sealed once an enabled build has written its class map there: no later build of
the same directory writes anything, whatever else it is told and however it ends. Main statements:

- `Setup.sealed_of_ends`: an enabled build seals its directory;
- `tree_build_of_sealed`: a build of a sealed directory keeps all files;
- `rebuilds_keep_files`: so do builds one after the other.
-/

namespace ClassScope.Command

variable {tree : FileTree} {setup : Setup}

/-! ## Sealed directories -/

/-- The class map is there, or it is where nothing is kept. -/
def Sealed (tree : FileTree) (root : Path) : Prop :=
  tree.has (root.join classMapName) = .ok true ∨
    ∃ place, tree.locate (root.join classMapName) = .ok place ∧ ¬ place.isInside

/-- Where a file was written is one, or nothing is kept. -/
theorem sealed_of_write {root : Path} {tree' : FileTree} {bytes : List UInt8}
    (h : tree.write (root.join classMapName) bytes = .ok tree') : Sealed tree' root := by
  obtain ⟨place, hplace, -, hstores⟩ := FileTree.stores_of_write h
  have hplace' := (FileTree.locate_congr hstores.directories).2 hplace
  -- A file outside is not kept, so it cannot be seen later; nothing else below that directory is
  -- kept either.
  by_cases hinside : place.isInside
  · left
    obtain ⟨location, rfl⟩ := Place.exists_of_isInside hinside
    rw [FileTree.has, FileTree.look_of_locate hplace', FileTree.standing?, hstores.get?, if_pos rfl]
    rfl
  · exact .inr ⟨place, hplace', hinside⟩

/-- An enabled build that writes and returns seals its directory. -/
theorem Setup.sealed_of_ends {session : Session} {space : Workspace}
    (h : setup.Ends tree (.ok session, space)) (henabled : session.enabled = true)
    (hdry : setup.arguments.dryRun = false) : Sealed space.tree setup.root := by
  cases h with
  | done hmodules hread hdocument hmap printed =>
    rw [Build.enabled_finalSession] at henabled
    have hlive : setup.live = true := live_iff.2 ⟨henabled, hdry⟩
    rw [ClassMapWritten, if_pos hlive] at hmap
    exact sealed_of_write hmap

/-! ## Builds that write nothing -/

/-- A build with this setup has nothing to write on these files. -/
structure Setup.Quiet (setup : Setup) (tree : FileTree) : Prop where
  /-- No module changes. -/
  modules : ∀ paths, modulePaths tree setup.root = .ok paths → setup.moduleChanges tree paths = []
  /-- A document that changes is not kept. -/
  document : ∀ change, setup.documentChange? tree = some change →
    change.apply setup.arguments.backup tree = tree
  /-- A class map is not kept. -/
  classMap : setup.live = true → ∀ bytes tree', tree.write setup.classMap bytes = .ok tree' →
    tree' = tree

/-- A build with nothing to write keeps all files, however it ends. -/
theorem Setup.Quiet.tree_of_ends (h : setup.Quiet tree)
    {outcome : Except Stop Session × Workspace} (hends : setup.Ends tree outcome) :
    outcome.2.tree = tree := by
  -- With no changes to write, each stage leaves the files as it found them.
  have hmid : ∀ {paths mid}, setup.ModulesDone tree paths mid → mid = tree := by
    intro paths mid hmodules
    rw [hmodules.rewritten, h.modules paths hmodules.listed, rewriteAll_nil]
  have hfinal : ∀ {paths mid final}, setup.ModulesDone tree paths mid →
      setup.DocumentWritten mid final → final = tree := by
    intro paths mid final hmodules hdocument
    obtain rfl := hmid hmodules
    unfold DocumentWritten at hdocument
    split at hdocument
    · exact hdocument
    · rename_i change hchange
      rw [hdocument.2.2, h.document change hchange]
  cases hends with
  | unlisted => rfl
  | unspared hlisted =>
    dsimp only
    rw [h.modules _ hlisted, List.takeWhile_nil, rewriteAll_nil]
  | unread hmodules => exact hmid hmodules
  | documentUnspared hmodules => exact hmid hmodules
  | unencodable hmodules hchange =>
    obtain rfl := hmid hmodules
    exact h.document _ hchange
  | unmapped hmodules hdocument => exact hfinal hmodules hdocument
  | done hmodules hread hdocument hmap =>
    obtain rfl := hfinal hmodules hdocument
    unfold ClassMapWritten at hmap
    split at hmap
    · rename_i hlive
      exact h.classMap hlive _ _ hmap
    · exact hmap

/-- A disabled build has nothing to write. -/
theorem Setup.quiet_of_disabled (h : ¬ setup.config.enabled = true) : setup.Quiet tree where
  modules paths _ := by
    have hnone : ∀ path ∈ paths, moduleChange? setup.config tree path = none := fun path _ =>
      if_pos (Config.moduleText_of_disabled h _ _)
    rw [moduleChanges, Command.moduleChanges, List.filterMap_eq_nil_iff.2 hnone]
    exact ite_self _
  document change hchange := by
    unfold documentChange? at hchange
    split at hchange
    · rw [Config.finishedMarkup_of_disabled h] at hchange
      simp at hchange
    · cases hchange
  classMap hlive := absurd (live_iff.1 hlive).1 h

/-- A build whose class map would not be kept has nothing to write. -/
theorem Setup.quiet_of_outside {place : Place} (hplace : tree.locate setup.classMap = .ok place)
    (houtside : ¬ place.isInside) : setup.Quiet tree := by
  obtain ⟨directory, rfl, hroot, -⟩ := locate_classMap hplace
  rw [Place.isInside_child] at houtside
  refine ⟨?_, ?_, ?_⟩
  · intro paths hlisted
    -- The class map is in the build directory, so that is outside too, and has no modules.
    have hnone : paths = [] := by
      refine modulePaths_outside (fun place' hplace' => ?_) hlisted
      cases Except.ok.inj (hroot.symm.trans hplace')
      exact houtside
    rw [hnone]
    exact ite_self _
  · intro change hchange
    obtain ⟨place', bytes, hplace', hfile⟩ := exists_file_of_documentChange? hchange
    refine Change.apply_outside hplace' hfile ?_
    obtain ⟨manifest, old, new, -, rfl, -⟩ := documentChange?_eq_some hchange
    exact FileTree.not_isInside_of_join hroot houtside hplace'
  · intro _ bytes tree' hwrite
    obtain ⟨place', hplace', -, hstores⟩ := FileTree.stores_of_write hwrite
    cases Except.ok.inj (hplace.symm.trans hplace')
    exact hstores.outside (by rwa [Place.isInside_child])

/-! ## Builds of sealed directories -/

variable {argv : List Text} {environment : Environment}

/-- A build of a sealed directory has nothing to write. -/
theorem Setup.quiet_of_sealed (h : Sealed tree setup.root)
    (hreaches : setup.Reaches argv environment tree) : setup.Quiet tree := by
  rcases h with hthere | ⟨place, hplace, houtside⟩
  -- A build that gets to its modules has met no class map, unless it is disabled.
  · refine quiet_of_disabled fun henabled => ?_
    have hfree := hreaches.unmarked henabled
    rw [classMap, hthere] at hfree
    cases hfree
  · exact quiet_of_outside hplace houtside

/-- What some arguments of the build command give, if they make sense. -/
def argumentsOf? (argv : List Text) : Option BuildArguments :=
  (buildOptions.read argv).toOption.bind fun given => (BuildArguments.ofGiven given).toOption

/-- The build directory that some arguments name. -/
def rootOf? (argv : List Text) : Option Text := (argumentsOf? argv).map BuildArguments.root

theorem argumentsOf?_of_reaches (h : setup.Reaches argv environment tree) :
    argumentsOf? argv = some setup.arguments := by
  obtain ⟨given, hread, -, hgiven⟩ := h.arguments
  rw [argumentsOf?, hread]
  change (BuildArguments.ofGiven given).toOption = _
  rw [hgiven]
  rfl

/-- A build of a sealed directory keeps all files. -/
theorem tree_build_of_sealed {root : Text} (h : Sealed tree (.ofText root))
    (hroot : rootOf? argv = none ∨ rootOf? argv = some root) (environment : Environment)
    (printed : List Text) : ((build argv environment).run ⟨tree, printed⟩).2.tree = tree := by
  by_cases hreaches : ∃ setup : Setup, setup.Reaches argv environment tree
  · obtain ⟨setup, hreaches⟩ := hreaches
    rw [rootOf?, argumentsOf?_of_reaches hreaches] at hroot
    obtain rfl : setup.arguments.root = root := by simpa using hroot
    obtain ⟨outcome, hends, hrun⟩ := ends_build hreaches printed
    rw [hrun]
    exact (Setup.quiet_of_sealed h hreaches).tree_of_ends hends
  · exact (idle_build_of_not_reaches (not_exists.1 hreaches) printed).tree

/-- The files after a build command was called. -/
def afterCall (tree : FileTree) (call : List Text × Environment) : FileTree :=
  ((build call.1 call.2).run ⟨tree, []⟩).2.tree

/-- Calls of the build command on a sealed directory keep all files. -/
theorem afterCalls_of_sealed {root : Text} (h : Sealed tree (.ofText root))
    {calls : List (List Text × Environment)}
    (hroot : ∀ call ∈ calls, rootOf? call.1 = none ∨ rootOf? call.1 = some root) :
    calls.foldl afterCall tree = tree := by
  induction calls with
  | nil => rfl
  | cons call calls ih =>
    have hcall : afterCall tree call = tree :=
      tree_build_of_sealed h (hroot call List.mem_cons_self) call.2 []
    rw [List.foldl_cons, hcall]
    exact ih fun call hcall => hroot call (List.mem_cons_of_mem _ hcall)

/-- After a build that gave an enabled session and was no dry run, calls of the build command on the
same directory keep all files, whatever else they are told and however they end. -/
theorem rebuilds_keep_files {printed : List Text} {session : Session}
    {calls : List (List Text × Environment)}
    (hrun : ((build argv environment).run ⟨tree, printed⟩).1 = .ok (some session))
    (henabled : session.enabled = true)
    (hdry : (argumentsOf? argv).any BuildArguments.dryRun = false)
    (hroot : ∀ call ∈ calls, rootOf? call.1 = none ∨ rootOf? call.1 = rootOf? argv) :
    calls.foldl afterCall ((build argv environment).run ⟨tree, printed⟩).2.tree =
      ((build argv environment).run ⟨tree, printed⟩).2.tree := by
  by_cases hreaches : ∃ setup : Setup, setup.Reaches argv environment tree
  · obtain ⟨setup, hreaches⟩ := hreaches
    have harguments := argumentsOf?_of_reaches hreaches
    obtain ⟨⟨result, space⟩, hends, heq⟩ := ends_build hreaches printed
    rw [heq] at hrun ⊢
    rw [harguments] at hdry
    rw [rootOf?, harguments] at hroot
    cases result with
    | error stop => cases hrun
    | ok session' =>
      cases hrun
      exact afterCalls_of_sealed (Setup.sealed_of_ends hends henabled hdry) hroot
  · exact absurd hrun ((idle_build_of_not_reaches (not_exists.1 hreaches) printed).none session)

/-- Two more builds of a site with a stylesheet, one of which has another scope. -/
theorem rebuilds_keep_files_sheetSite :
    let first := (build [Text.of "--root", Text.of "d", Text.of "--manifest", Text.of "n"] []).run
      ⟨sheetSite, []⟩
    (∃ session, first.1 = .ok (some session) ∧ session.enabled = true) ∧
      [([Text.of "--root", Text.of "d", Text.of "--prefix", Text.of "x-"], []),
        ([Text.of "--root=d", Text.of "--html", Text.of "a.css", Text.of "--backup"], [])].foldl
          afterCall first.2.tree = first.2.tree := by
  have hreaches : (plainSetup (some (Text.of "n"))).Reaches
      [Text.of "--root", Text.of "d", Text.of "--manifest", Text.of "n"] [] sheetSite :=
    reaches_iff.2 ⟨by decide +kernel, by decide +kernel⟩
  have hgiven : ((build [Text.of "--root", Text.of "d", Text.of "--manifest", Text.of "n"] []).run
      ⟨sheetSite, []⟩).1.toOption.join.any Session.enabled = true := by
    rw [run_build_of_listed hreaches modulePaths_sheetSite]
    decide +kernel
  intro first
  obtain ⟨session, hsession, henabled⟩ := Option.any_eq_true _ _ |>.1 hgiven
  have hfirst : first.1 = .ok (some session) := toOption_join_eq_some.1 hsession
  refine ⟨⟨session, hfirst, henabled⟩, rebuilds_keep_files hfirst henabled (by decide +kernel) ?_⟩
  intro call hcall
  right
  rcases List.mem_cons.1 hcall with rfl | hcall
  · decide +kernel
  · rw [List.mem_singleton.1 hcall]
    decide +kernel

end ClassScope.Command
