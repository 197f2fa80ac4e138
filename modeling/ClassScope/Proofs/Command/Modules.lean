import ClassScope.Command.Build
import ClassScope.Proofs.Build.Session
import ClassScope.Proofs.Command.Change

/-!
# The modules of a build

The modules below a build directory are transformed one after the other, each in place. No module is
read from a file that was written before, so each changes as its own text says. Main statements:

- `modulePaths_inside`, `modulePaths_of_below`: the modules are the files with names of modules in
  a listing;
- `filesAt_modulePaths`: the paths of the modules lead to files, each to another one;
- `textAt_apply`: a module that is written does not change what the others are read as;
- `run_transformModules`: what transforming the modules gives and leaves.
-/

namespace ClassScope.Command

variable {tree tree' : FileTree} {root path : Path} {paths : List Path}

/-! ## Paths of modules -/

/-- The paths to everything below a directory. -/
def listedPaths (tree : FileTree) (root : Path) (location : Location) : List Path :=
  (tree.below location).map fun item => root.extend item.1

theorem modulePaths_inside {location : Location}
    (hroot : tree.locate root = .ok (.inside location)) :
    modulePaths tree root =
      (fun files => files.filter isModule) <$>
        tree.filesAmong (listedPaths tree root location) := by
  rw [modulePaths, FileTree.listing_of_locate hroot]
  rfl

/-- Where the names of what is listed are known, the modules are the files with names of modules
among them. -/
theorem modulePaths_of_below {location : Location} {listed : List (List Text)}
    (hroot : tree.locate root = .ok (.inside location))
    (hbelow : (tree.below location).map Prod.fst = listed) :
    modulePaths tree root =
      (fun files => files.filter isModule) <$> tree.filesAmong (listed.map root.extend) := by
  rw [modulePaths_inside hroot, listedPaths, ← hbelow, List.map_map]
  rfl

/-- The paths of modules lead to files, each to another one. -/
theorem filesAt_modulePaths (h : modulePaths tree root = .ok paths) : tree.FilesAt paths := by
  obtain ⟨listed, hlisting, h⟩ := bind_eq_ok.1 h
  obtain ⟨files, hfiles, h⟩ := bind_eq_ok.1 h
  cases h
  have hsub : (files.filter isModule).Sublist files := List.filter_sublist
  obtain ⟨location, hroot, rfl⟩ | ⟨-, rfl⟩ := FileTree.listing_cases hlisting
  · exact (FileTree.filesAt_filesAmong hroot hfiles).sublist hsub
  · -- Outside nothing is listed.
    cases hfiles
    exact ⟨by simp, by simp⟩

/-- There are modules below directories of the tree only. -/
theorem directory_of_mem_modulePaths (h : modulePaths tree root = .ok paths)
    (hpath : path ∈ paths) :
    ∃ location, tree.locate root = .ok (.inside location) ∧
      tree.get? location = some .directory := by
  obtain ⟨listed, hlisting, h⟩ := bind_eq_ok.1 h
  obtain ⟨files, hfiles, h⟩ := bind_eq_ok.1 h
  cases h
  have hlisted := (FileTree.filesAmong_spec hfiles).1.subset (List.mem_of_mem_filter hpath)
  obtain ⟨location, hroot, rfl⟩ | ⟨-, rfl⟩ := FileTree.listing_cases hlisting
  · -- A module stands below the root, which is a directory then.
    obtain ⟨⟨names, entry⟩, hitem, -⟩ := List.mem_map.1 hlisted
    obtain ⟨hnames, hentry⟩ := FileTree.mem_below hitem
    exact ⟨location, hroot, FileTree.get?_of_append hnames hentry⟩
  · cases hlisted

/-- There are no modules below a directory outside. -/
theorem modulePaths_outside (houtside : ∀ place, tree.locate root = .ok place → ¬ place.isInside)
    (h : modulePaths tree root = .ok paths) : paths = [] := by
  by_contra hsome
  obtain ⟨path, hpath⟩ := List.exists_mem_of_ne_nil paths hsome
  obtain ⟨location, hroot, -⟩ := directory_of_mem_modulePaths h hpath
  exact houtside _ hroot rfl

/-- The paths of modules have names of modules. -/
theorem isModule_of_mem_modulePaths (h : modulePaths tree root = .ok paths) (hpath : path ∈ paths) :
    isModule path = true := by
  obtain ⟨listed, -, h⟩ := bind_eq_ok.1 h
  obtain ⟨files, -, h⟩ := bind_eq_ok.1 h
  cases h
  exact (List.mem_filter.1 hpath).2

/-! ## Texts of modules -/

/-- The text of the file at the end of a path, if there is a file. -/
def textAt (tree : FileTree) (path : Path) : Text :=
  match tree.readText path with
  | .ok s => s
  | .error _ => []

theorem readText_eq {bytes : List UInt8} (h : tree.look path = .ok (some (.file bytes))) :
    tree.readText path = .ok (textAt tree path) := by
  have hread : tree.readText path = .ok (Text.unifyLineEnds (Utf8.decodeLenient bytes)) := by
    rw [FileTree.readText, FileTree.read_of_look h]
    rfl
  rw [textAt, hread]

theorem textAt_congr {bytes : List UInt8} (h : tree.look path = .ok (some (.file bytes)))
    (h' : tree'.look path = tree.look path) : textAt tree' path = textAt tree path := by
  have hread : tree'.readText path = tree.readText path := by
    rw [FileTree.readText, FileTree.readText, FileTree.read_of_look h,
      FileTree.read_of_look (h'.trans h)]
  rw [textAt, textAt, hread]

theorem look_file {location : Location} {bytes : List UInt8}
    (hplace : tree.locate path = .ok (.inside location))
    (hfile : tree.get? location = some (.file bytes)) :
    tree.look path = .ok (some (.file bytes)) := by
  rw [FileTree.look_of_locate hplace, FileTree.standing?, hfile]

/-- The names and texts of some modules. -/
def sourcesAt (tree : FileTree) (paths : List Path) : List (Text × Text) :=
  paths.map fun path => (path.name, textAt tree path)

/-- The change of a module, if its text changes. -/
def moduleChange? (config : Config) (tree : FileTree) (path : Path) : Option Change :=
  let old := textAt tree path
  let new := config.moduleText path.name old
  if new = old then none else some ⟨path, old, .ofText new⟩

/-- The changes of some modules. -/
def moduleChanges (config : Config) (tree : FileTree) (paths : List Path) : List Change :=
  paths.filterMap (moduleChange? config tree)

theorem moduleChange?_eq_some {config : Config} {change : Change}
    (h : moduleChange? config tree path = some change) :
    change = ⟨path, textAt tree path, .ofText (config.moduleText path.name (textAt tree path))⟩ ∧
      config.moduleText path.name (textAt tree path) ≠ textAt tree path := by
  unfold moduleChange? at h
  dsimp only at h
  split at h
  · cases h
  · exact ⟨(Option.some.inj h).symm, ‹_›⟩

/-- An empty module does not change. -/
theorem moduleChange?_of_empty {config : Config} (h : tree.look path = .ok (some (.file []))) :
    moduleChange? config tree path = none := by
  have htext : textAt tree path = [] := by
    rw [textAt, FileTree.readText, FileTree.read_of_look h]
    rfl
  rw [moduleChange?, htext]
  exact if_pos (ModuleKind.inScope_nil _ _)

/-- Changes of modules are of files of the tree, each of another one. -/
theorem changesAt_moduleChanges {config : Config} (h : tree.FilesAt paths) :
    ChangesAt tree (moduleChanges config tree paths) := by
  have hpaths := map_path_filterMap_sublist (moduleChange? config tree) id
    (fun path change hchange => by rw [(moduleChange?_eq_some hchange).1]; rfl) paths
  rw [List.map_id] at hpaths
  exact h.sublist hpaths

/-- A module that is changed leaves the files of the others as they are. -/
theorem look_apply_of_ne {change : Change} {backup : Bool} {place : Place} {old bytes : List UInt8}
    {location : Location} (hplace : tree.locate change.path = .ok place)
    (hfile : tree.standing? place = some (.file old))
    (hother : tree.locate path = .ok (.inside location))
    (hotherFile : tree.get? location = some (.file bytes)) (hne : place ≠ .inside location) :
    (change.apply backup tree).look path = tree.look path := by
  have hdirectories := Change.sameDirectories_apply backup hplace hfile
  refine FileTree.look_congr hdirectories ?_
  intro place' hplace'
  cases Except.ok.inj (hother.symm.trans hplace')
  exact Change.get?_apply_of_ne hplace hfile hne (by simp [hotherFile])

/-- The modules still have the texts that they had before one of them was changed. -/
theorem textAt_apply {change : Change} {backup : Bool} (h : tree.FilesAt (path :: paths))
    (hpath : change.path = path) {other : Path} (hother : other ∈ paths) :
    textAt (change.apply backup tree) other = textAt tree other := by
  obtain ⟨place, bytes, hplace, hfile⟩ := h.leads path List.mem_cons_self
  obtain ⟨place', bytes', hplace', hfile'⟩ := h.leads other (List.mem_cons_of_mem _ hother)
  -- The listed modules are different files.
  have hne : Place.inside place ≠ .inside place' := by
    intro heq
    have hapart := (List.pairwise_cons.1 h.apart).1 other hother
    exact hapart (hplace.trans (heq ▸ hplace'.symm))
  have hstanding : tree.standing? (.inside place) = some (.file bytes) := hfile
  have hlook : (change.apply backup tree).look other = tree.look other :=
    look_apply_of_ne (hpath ▸ hplace) hstanding hplace' hfile' hne
  exact textAt_congr (look_file hplace' hfile') hlook

/-- The other modules still lead to files. -/
theorem filesAt_apply {change : Change} {backup : Bool} (h : tree.FilesAt (path :: paths))
    (hpath : change.path = path) : (change.apply backup tree).FilesAt paths := by
  obtain ⟨location, bytes, hplace, hfile⟩ := h.leads path List.mem_cons_self
  have hstanding : tree.standing? (.inside location) = some (.file bytes) := hfile
  exact (h.sublist (List.sublist_cons_self path paths)).congr
    (Change.sameDirectories_apply backup (hpath ▸ hplace) hstanding)
    (Change.exists_file_apply (hpath ▸ hplace) hstanding)

theorem sourcesAt_apply {change : Change} {backup : Bool} (h : tree.FilesAt (path :: paths))
    (hpath : change.path = path) :
    sourcesAt (change.apply backup tree) paths = sourcesAt tree paths :=
  List.map_congr_left fun other hother => by rw [textAt_apply h hpath hother]

theorem moduleChanges_apply {config : Config} {change : Change} {backup : Bool}
    (h : tree.FilesAt (path :: paths)) (hpath : change.path = path) :
    moduleChanges config (change.apply backup tree) paths = moduleChanges config tree paths :=
  List.filterMap_congr fun other hother => by
    rw [moduleChange?, moduleChange?, textAt_apply h hpath hother]

/-! ## Transforming modules -/

variable {arguments : BuildArguments} {session : Session} {changed : Nat} {printed : List Text}

/-- The changes that are written: none in a dry run. -/
def BuildArguments.written (arguments : BuildArguments) (changes : List Change) : List Change :=
  if arguments.dryRun then [] else changes

/-- Transforming a module changes it, as the session says, unless that is a dry run. -/
theorem run_transformModules_cons {bytes : List UInt8} (hsession : session.Consistent)
    (hphase : Hook.transform.allowedIn session.phase = true)
    (hlook : tree.look path = .ok (some (.file bytes))) :
    (transformModules arguments session changed (path :: paths)).run ⟨tree, printed⟩ =
      match moduleChange? session.config tree path with
      | none =>
        (transformModules arguments (session.afterModule (path.name, textAt tree path)) changed
          paths).run ⟨tree, printed⟩
      | some change =>
        if arguments.dryRun ∨ change.Spared arguments.backup then
          (transformModules arguments (session.afterModule (path.name, textAt tree path))
            (changed + 1) paths).run
              ⟨if arguments.dryRun then tree else change.apply arguments.backup tree, printed⟩
        else (.error (.failed (.file ⟨.nameTooLong, path.spare⟩)), ⟨tree, printed⟩) := by
  obtain ⟨place, hplace, hfile⟩ := FileTree.look_eq_some_iff.1 hlook
  rw [transformModules, Job.run_bind_ok (Job.run_tree _), Job.run_bind, Job.run_orFail,
    readText_eq hlook, mapError_ok]
  dsimp only
  rw [Job.run_bind, Job.run_orFail, Session.transform_eq hsession hphase, mapError_ok]
  dsimp only
  by_cases hnew : session.config.moduleText path.name (textAt tree path) = textAt tree path
  · rw [if_pos hnew, moduleChange?, if_pos hnew]
  · rw [if_neg hnew, moduleChange?, if_neg hnew]
    dsimp only
    cases hdry : arguments.dryRun with
    | true => rfl
    | false =>
      -- Named, so that its fields are not unfolded in the run.
      obtain ⟨change, hchange⟩ : ∃ change : Change, change = ⟨path, textAt tree path,
          .ofText (session.config.moduleText path.name (textAt tree path))⟩ := ⟨_, rfl⟩
      have hwrite := Change.run_writeChanged change arguments.backup (hchange ▸ hplace) hfile
        (by rw [hchange]; rwa [Ne, WideText.ofText_inj]) printed
      have hencode : Utf8.encodeWide change.new = .ok (Utf8.encode
          (session.config.moduleText path.name (textAt tree path))) := by
        rw [hchange, Utf8.encodeWide_ofText]
      rw [hencode] at hwrite
      rw [if_pos (by rfl : (!false) = true), ← hchange]
      by_cases hspared : change.Spared arguments.backup
      · rw [if_pos hspared] at hwrite
        rw [if_pos (.inr hspared)]
        subst hchange
        exact Job.run_bind_ok hwrite
      · rw [if_neg hspared] at hwrite
        rw [if_neg fun h => hspared (h.resolve_left Bool.false_ne_true)]
        subst hchange
        exact Job.run_bind_error hwrite

/-- Transforming modules changes each of them, unless that is a dry run, up to the first whose spare
copy cannot be made. -/
theorem run_transformModules (arguments : BuildArguments) (changed : Nat) (printed : List Text)
    (h : tree.FilesAt paths) (hsession : session.Consistent)
    (hphase : Hook.transform.allowedIn session.phase = true) :
    let changes := moduleChanges session.config tree paths
    (transformModules arguments session changed paths).run ⟨tree, printed⟩ =
      (match (arguments.written changes).find? fun change => !change.Spared arguments.backup with
        | none => .ok (session.afterModules (sourcesAt tree paths), changed + changes.length)
        | some change => .error (.failed (.file ⟨.nameTooLong, change.path.spare⟩)),
        ⟨rewriteAll arguments.backup
          ((arguments.written changes).takeWhile fun change => change.Spared arguments.backup)
          tree, printed⟩) := by
  dsimp only
  -- The tree changes from module to module, and the session with it; the texts of those left do
  -- not.
  induction paths generalizing tree session changed with
  | nil =>
    have hwritten : arguments.written [] = [] := ite_self _
    simp only [moduleChanges, List.filterMap_nil, hwritten]
    rfl
  | cons path paths ih =>
    obtain ⟨location, bytes, hplace, hfile⟩ := h.leads path List.mem_cons_self
    have hrest := h.sublist (List.sublist_cons_self path paths)
    have hafter := hsession.afterModule (path.name, textAt tree path)
    have hallowed := Session.allowedIn_afterModule session (path.name, textAt tree path)
    rw [run_transformModules_cons hsession hphase (look_file hplace hfile)]
    cases hchange : moduleChange? session.config tree path with
    | none =>
      rw [ih _ hrest hafter hallowed]
      simp only [moduleChanges, List.filterMap_cons, hchange]
      rfl
    | some change =>
      have hpath : change.path = path := by rw [(moduleChange?_eq_some hchange).1]
      have hchanges : moduleChanges session.config tree (path :: paths) =
          change :: moduleChanges session.config tree paths := by
        rw [moduleChanges, List.filterMap_cons, hchange]
        rfl
      dsimp only
      rw [hchanges]
      cases hdry : arguments.dryRun with
      | true =>
        -- In a dry run the module is counted, but nothing is written.
        have hwritten : ∀ changes, arguments.written changes = [] := fun _ => if_pos hdry
        rw [if_pos (.inl rfl), if_pos rfl, ih _ hrest hafter hallowed, hwritten, hwritten,
          List.length_cons, Nat.add_right_comm, Nat.add_assoc]
        rfl
      | false =>
        have hwritten : ∀ changes, arguments.written changes = changes := fun _ =>
          if_neg (by simp [hdry])
        rw [hwritten]
        by_cases hspared : change.Spared arguments.backup
        · -- The other modules are read as if nothing had been written.
          rw [if_pos (.inr hspared), if_neg Bool.false_ne_true,
            ih _ (filesAt_apply h hpath) hafter hallowed, sourcesAt_apply h hpath]
          have hconfig : (session.afterModule (path.name, textAt tree path)).config =
            session.config := rfl
          rw [hconfig, moduleChanges_apply h hpath, hwritten, List.length_cons,
            Nat.add_right_comm, Nat.add_assoc, List.find?_cons_of_neg (by simp [hspared]),
            List.takeWhile_cons_of_pos (by simp [hspared]), rewriteAll_cons]
          rfl
        -- The run stops here, with the modules before it written.
        · rw [if_neg fun h => hspared (h.resolve_left Bool.false_ne_true)]
          simp [hspared, hpath]

end ClassScope.Command
