import ClassScope.Proofs.Command.Rerun

/-!
# What a build may write

A build writes modules and the document where their texts change, spare copies beside them where
nothing stands, and the class map. All else stays as it is, and so does everything where there are
reasons not to build (`Blocked`). Main statements:

- `sameBut_rewriteAll`: what several changes leave as it is;
- `Setup.sameBut_of_ends`: what a build with a setup leaves as it is, however it ends;
- `contained_build`: the build command.
-/

namespace ClassScope

/-! ## Trees that differ in some places -/

namespace FileTree

variable {tree mid tree' : FileTree} {touched : Location → Prop}

/-- Files stay files and directories stay directories, and elsewhere than where something is touched
all is as it was. -/
structure SameBut (touched : Location → Prop) (tree tree' : FileTree) : Prop where
  /-- The directories are as they were. -/
  directories : SameDirectories tree tree'
  /-- No file is gone. -/
  files : ∀ location bytes, tree.get? location = some (.file bytes) →
    ∃ bytes', tree'.get? location = some (.file bytes')
  /-- What is not touched is as it was. -/
  untouched : ∀ location, ¬ touched location → tree'.get? location = tree.get? location

namespace SameBut

theorem refl (touched : Location → Prop) (tree : FileTree) : tree.SameBut touched tree :=
  ⟨.refl tree, fun _ bytes h => ⟨bytes, h⟩, fun _ _ => rfl⟩

theorem trans (h : tree.SameBut touched mid) (h' : mid.SameBut touched tree') :
    tree.SameBut touched tree' where
  directories := h.directories.trans h'.directories
  files location bytes hfile := by
    obtain ⟨bytes', hfile'⟩ := h.files location bytes hfile
    exact h'.files location bytes' hfile'
  untouched location htouched :=
    (h'.untouched location htouched).trans (h.untouched location htouched)

/-- What is free afterwards was free before. -/
theorem free (h : tree.SameBut touched tree') {location : Location}
    (hfree : tree'.get? location = none) : tree.get? location = none := by
  cases hentry : tree.get? location with
  | none => rfl
  | some entry =>
    cases entry with
    | file bytes =>
      obtain ⟨bytes', hfile⟩ := h.files location bytes hentry
      rw [hfile] at hfree
      cases hfree
    | directory =>
      rw [(h.directories location).2 hentry] at hfree
      cases hfree

end SameBut

/-- A file that is stored touches its place. -/
theorem Stores.sameBut {place : Place} {bytes : List UInt8} (h : tree.Stores place bytes tree')
    (hplace : ∀ location, place = .inside location → touched location) :
    tree.SameBut touched tree' where
  directories := h.directories
  files location old hold := by
    rw [h.get?]
    split
    · exact ⟨bytes, rfl⟩
    · exact ⟨old, hold⟩
  untouched location htouched := by
    rw [h.get?, if_neg fun heq => htouched (hplace location heq)]

end FileTree

namespace Command

variable {tree mid final : FileTree} {backup : Bool} {touched : Location → Prop}
  {location : Location}

/-! ## Changes -/

/-- The locations that a change may write to: that of its file, and that of the spare copy if it is
free. -/
def Change.Touches (backup : Bool) (tree : FileTree) (change : Change) (location : Location) :
    Prop :=
  tree.locate change.path = .ok (.inside location) ∨
    backup = true ∧ tree.locate change.path.spare = .ok (.inside location) ∧
      tree.get? location = none

/-- A change does not touch more than it would have before other changes. -/
theorem Change.Touches.of_sameBut {change : Change} (hsame : tree.SameBut touched mid)
    (h : change.Touches backup mid location) : change.Touches backup tree location := by
  have hlocate : ∀ path place, mid.locate path = .ok place → tree.locate path = .ok place :=
    fun _ _ => (FileTree.locate_congr hsame.directories).1
  rcases h with hplace | ⟨hbackup, hspare, hfree⟩
  · exact .inl (hlocate _ _ hplace)
  · exact .inr ⟨hbackup, hlocate _ _ hspare, hsame.free hfree⟩

/-- A change leaves what it does not touch. -/
theorem Change.sameBut_apply {change : Change} {place : Place} {bytes : List UInt8}
    (hplace : tree.locate change.path = .ok place)
    (hfile : tree.standing? place = some (.file bytes))
    (h : ∀ location, change.Touches backup tree location → touched location) :
    tree.SameBut touched (change.apply backup tree) where
  directories := sameDirectories_apply backup hplace hfile
  files location old hold := exists_file_apply hplace hfile location old hold
  untouched location htouched := by
    rw [get?_apply hplace hfile, if_neg, if_neg]
    · exact fun hspare => htouched (h location (.inr hspare))
    · rintro rfl
      exact htouched (h location (.inl hplace))

/-- Several changes leave what none of them touches. -/
theorem sameBut_rewriteAll {changes : List Change} (hchanges : ChangesAt tree changes)
    (h : ∀ change ∈ changes, ∀ location, change.Touches backup tree location → touched location) :
    tree.SameBut touched (rewriteAll backup changes tree) := by
  induction changes generalizing tree with
  | nil => exact .refl touched tree
  | cons change changes ih =>
    obtain ⟨place, bytes, hplace, hfile⟩ := hchanges.head
    have hfirst := Change.sameBut_apply hplace hfile (h change List.mem_cons_self)
    -- The other changes touch what they would have touched before the first one.
    refine hfirst.trans (ih hchanges.tail fun other hother location htouches => ?_)
    exact h other (List.mem_cons_of_mem _ hother) location (htouches.of_sameBut hfirst)

/-! ## Builds with a setup -/

variable {setup : Setup}

/-- The path leads to the document, or it is listed as that of a module. -/
def Setup.Rewrites (setup : Setup) (tree : FileTree) (path : Path) : Prop :=
  path = setup.document ∨ ∃ paths, modulePaths tree setup.root = .ok paths ∧ path ∈ paths

/-- The locations that a build may write to. -/
inductive Setup.Touches (setup : Setup) (tree : FileTree) (location : Location) : Prop where
  /-- A module is there, and its text changes. -/
  | module {paths : List Path} {path : Path} (hlisted : modulePaths tree setup.root = .ok paths)
    (hpath : path ∈ paths) (hplace : tree.locate path = .ok (.inside location))
    (hchanges : setup.config.moduleText path.name (textAt tree path) ≠ textAt tree path)
  /-- The document is there. -/
  | document (hplace : tree.locate setup.document = .ok (.inside location))
  /-- It is free for the spare copy of a module or of the document. -/
  | spare {path : Path} (hbackup : setup.arguments.backup = true)
    (hpath : setup.Rewrites tree path) (hplace : tree.locate path.spare = .ok (.inside location))
    (hfree : tree.get? location = none)
  /-- It is free for the class map. -/
  | classMap (hplace : tree.locate setup.classMap = .ok (.inside location))
    (hfree : tree.get? location = none)

namespace Setup

/-- A change of a module touches what the build may write to. -/
theorem touches_of_mem_moduleChanges {paths : List Path} {change : Change}
    (hlisted : modulePaths tree setup.root = .ok paths)
    (hchange : change ∈ setup.moduleChanges tree paths)
    (h : change.Touches setup.arguments.backup tree location) : setup.Touches tree location := by
  obtain ⟨hpath, hsome⟩ := of_mem_moduleChanges hchange
  rcases h with hplace | ⟨hbackup, hspare, hfree⟩
  · exact .module hlisted hpath hplace (moduleChange?_eq_some hsome).2
  · exact .spare hbackup (.inr ⟨paths, hlisted, hpath⟩) hspare hfree

/-- The modules are rewritten, as far as that goes, within what the build may write to. -/
theorem sameBut_modules {paths : List Path} {changes : List Change}
    (hlisted : modulePaths tree setup.root = .ok paths)
    (hsub : changes.Sublist (setup.moduleChanges tree paths)) :
    tree.SameBut (setup.Touches tree) (rewriteAll setup.arguments.backup changes tree) := by
  have hchanges : ChangesAt tree changes :=
    (changesAt_moduleChanges hlisted).sublist (hsub.map Change.path)
  exact sameBut_rewriteAll hchanges fun change hchange location =>
    touches_of_mem_moduleChanges hlisted (hsub.subset hchange)

theorem ModulesDone.sameBut {paths : List Path} (h : setup.ModulesDone tree paths mid) :
    tree.SameBut (setup.Touches tree) mid := by
  rw [h.rewritten]
  exact sameBut_modules h.listed (.refl _)

/-- The document is written within what the build may write to. -/
theorem sameBut_documentChange {change : Change} (hmid : tree.SameBut (setup.Touches tree) mid)
    (hchange : setup.documentChange? mid = some change) :
    tree.SameBut (setup.Touches tree) (change.apply setup.arguments.backup mid) := by
  obtain ⟨place, bytes, hplace, hfile⟩ := exists_file_of_documentChange? hchange
  refine hmid.trans (Change.sameBut_apply hplace hfile fun location htouches => ?_)
  obtain ⟨manifest, old, new, -, rfl, -⟩ := documentChange?_eq_some hchange
  rcases htouches.of_sameBut hmid with hplace | ⟨hbackup, hspare, hfree⟩
  · exact .document hplace
  · exact .spare hbackup (.inl rfl) hspare hfree

theorem DocumentWritten.sameBut (hmid : tree.SameBut (setup.Touches tree) mid)
    (h : setup.DocumentWritten mid final) : tree.SameBut (setup.Touches tree) final := by
  unfold DocumentWritten at h
  split at h
  · rw [h]
    exact hmid
  · rename_i change hchange
    rw [h.2.2]
    exact sameBut_documentChange hmid hchange

/-- However a build ends, it leaves all that it may not write to. -/
theorem sameBut_of_ends {outcome : Except Stop Session × Workspace}
    (hunmarked : setup.config.enabled = true → tree.has setup.classMap = .ok false)
    (h : setup.Ends tree outcome) : tree.SameBut (setup.Touches tree) outcome.2.tree := by
  cases h with
  | unlisted => exact .refl _ tree
  | unspared hlisted => exact sameBut_modules hlisted (List.takeWhile_sublist _)
  | unread hmodules => exact hmodules.sameBut
  | documentUnspared hmodules => exact hmodules.sameBut
  | unencodable hmodules hchange => exact sameBut_documentChange hmodules.sameBut hchange
  | unmapped hmodules hdocument => exact DocumentWritten.sameBut hmodules.sameBut hdocument
  | done hmodules hread hdocument hmap =>
    have hfinal := DocumentWritten.sameBut hmodules.sameBut hdocument
    unfold ClassMapWritten at hmap
    split at hmap
    · rename_i hlive
      -- No class map was there before, so its place is free.
      obtain ⟨place, hplace, -, hstores⟩ := FileTree.stores_of_write hmap
      refine hfinal.trans (hstores.sameBut fun location heq => ?_)
      rw [heq, FileTree.locate_congr hfinal.directories] at hplace
      have hfree := hunmarked (live_iff.1 hlive).1
      exact .classMap hplace (FileTree.get?_eq_none_of_has hfree hplace)
    · rw [hmap]
      exact hfinal

/-- A dry run has nothing to write. -/
theorem quiet_of_dryRun (h : setup.arguments.dryRun = true) : setup.Quiet tree where
  modules _ _ := if_pos h
  document change hchange := by
    obtain ⟨-, -, -, -, -, -, hdry⟩ := documentChange?_eq_some hchange
    rw [h] at hdry
    cases hdry
  classMap hlive := by
    rw [live, h, Bool.not_true, Bool.and_false] at hlive
    cases hlive

/-- A module that is not the document, and that the pass over it keeps, is not written to. -/
theorem not_touches_of_kept {paths : List Path} {path : Path}
    (hlisted : modulePaths tree setup.root = .ok paths) (hpath : path ∈ paths)
    (hplace : tree.locate path = .ok (.inside location))
    (hdocument : tree.locate setup.document ≠ .ok (.inside location))
    (hkept : setup.config.moduleText path.name (textAt tree path) = textAt tree path) :
    ¬ setup.Touches tree location := by
  have hfiles := filesAt_modulePaths hlisted
  obtain ⟨location', bytes, hplace', hfile⟩ := hfiles.leads path hpath
  cases Except.ok.inj (hplace.symm.trans hplace')
  intro htouches
  cases htouches with
  | @module paths' path' hlisted' hpath' hother hchanges =>
    -- No two modules are listed for one file.
    cases Except.ok.inj (hlisted.symm.trans hlisted')
    rw [← List.map_id paths] at hfiles
    obtain rfl : path = path' := hfiles.eq_of_locate hpath hpath' (hplace.trans hother.symm)
    exact hchanges hkept
  | document hdocument' => exact hdocument hdocument'
  | spare _ _ _ hfree =>
    rw [hfile] at hfree
    cases hfree
  | classMap _ hfree =>
    rw [hfile] at hfree
    cases hfree

end Setup

/-! ## The build command -/

variable {argv : List Text} {environment : Environment}

/-- A reason not to write anything. -/
inductive Blocked (argv : List Text) (environment : Environment) (tree : FileTree) : Prop where
  /-- The arguments make no sense. -/
  | usage {e : UsageError} (h : buildOptions.read argv = .error e)
  /-- The arguments ask for help. -/
  | help {given : Given} (h : buildOptions.read argv = .ok given) (hhelp : given.help = true)
  /-- There is no document. -/
  | undocumented {setup : Setup} (harguments : argumentsOf? argv = some setup.arguments)
    (h : tree.has setup.document ≠ .ok true)
  /-- It is a dry run. -/
  | dryRun {setup : Setup} (harguments : argumentsOf? argv = some setup.arguments)
    (h : setup.arguments.dryRun = true)
  /-- The scope is empty, or the mode is another one than production. -/
  | disabled {setup : Setup} (harguments : argumentsOf? argv = some setup.arguments)
    (hconfig : (readConfig environment setup.arguments.envFile setup.arguments.overrides).answer
      tree = .ok setup.config)
    (h : setup.config.scope.isTrue = false ∨ setup.config.mode ≠ .text Config.production)
  /-- There is a class map. -/
  | marked {setup : Setup} (harguments : argumentsOf? argv = some setup.arguments)
    (h : tree.has setup.classMap = .ok true)

namespace Setup.Reaches

variable {other : Setup}

/-- The arguments of a command are those that it gets to its modules with. -/
theorem arguments_eq (h : setup.Reaches argv environment tree)
    (harguments : argumentsOf? argv = some other.arguments) :
    other.arguments = setup.arguments :=
  Option.some.inj (harguments.symm.trans (argumentsOf?_of_reaches h))

/-- So is the configuration. -/
theorem setup_eq (h : setup.Reaches argv environment tree)
    (harguments : argumentsOf? argv = some other.arguments)
    (hconfig : (readConfig environment other.arguments.envFile other.arguments.overrides).answer
      tree = .ok other.config) : other = setup := by
  obtain ⟨arguments, config⟩ := other
  obtain rfl : arguments = setup.arguments := h.arguments_eq harguments
  obtain rfl : config = setup.config := Except.ok.inj (hconfig.symm.trans h.config)
  rfl

end Setup.Reaches

/-- A command that gets to its modules in spite of a reason not to write has nothing to write. -/
theorem Blocked.quiet (h : Blocked argv environment tree)
    (hreaches : setup.Reaches argv environment tree) : setup.Quiet tree := by
  obtain ⟨given, hread, hhelp, -⟩ := hreaches.arguments
  cases h with
  | usage h =>
    rw [hread] at h
    cases h
  | help h hasked =>
    cases Except.ok.inj (hread.symm.trans h)
    rw [hhelp] at hasked
    cases hasked
  | @undocumented other harguments h =>
    have hdocument : other.document = setup.document := by
      rw [Setup.document, Setup.root, hreaches.arguments_eq harguments]
      rfl
    rw [hdocument] at h
    exact absurd hreaches.document h
  | dryRun harguments h => exact Setup.quiet_of_dryRun (hreaches.arguments_eq harguments ▸ h)
  | disabled harguments hconfig h =>
    obtain rfl := hreaches.setup_eq harguments hconfig
    refine Setup.quiet_of_disabled fun henabled => ?_
    rw [Config.enabled, Bool.and_eq_true, beq_iff_eq] at henabled
    rcases h with hscope | hmode
    · rw [hscope] at henabled
      exact Bool.false_ne_true henabled.2
    · exact hmode henabled.1
  | @marked other harguments h =>
    have hclassMap : other.classMap = setup.classMap := by
      rw [Setup.classMap, Setup.root, hreaches.arguments_eq harguments]
      rfl
    rw [hclassMap] at h
    exact Setup.quiet_of_sealed (.inl h) hreaches

/-- The pass over a module keeps its text, and the module is not the document. -/
def Setup.Keeps (setup : Setup) (tree : FileTree) (path : Path) : Prop :=
  (∃ session, (Session.start setup.config).transform path.name (textAt tree path) =
    .ok (textAt tree path, session)) ∧ tree.locate path ≠ tree.locate setup.document

/-- What a build command does to the files. -/
structure Contained (argv : List Text) (environment : Environment) (tree tree' : FileTree) :
    Prop where
  /-- No file is gone. -/
  files : ∀ location bytes, tree.get? location = some (.file bytes) →
    ∃ bytes', tree'.get? location = some (.file bytes')
  /-- Where there is a reason not to write, nothing is written. -/
  blocked : Blocked argv environment tree → tree' = tree
  /-- Else only modules, the document, new spare copies of these and the class map are written. -/
  within : ∀ location, tree'.get? location ≠ tree.get? location →
    ∃ setup : Setup, argumentsOf? argv = some setup.arguments ∧ setup.Touches tree location
  /-- A module that the pass over it keeps has the bytes that it had, whatever they are. -/
  kept : ∀ setup : Setup, argumentsOf? argv = some setup.arguments →
    (readConfig environment setup.arguments.envFile setup.arguments.overrides).answer tree =
      .ok setup.config →
    ∀ paths, modulePaths tree setup.root = .ok paths → ∀ path ∈ paths, setup.Keeps tree path →
      ∀ location, tree.locate path = .ok (.inside location) →
        tree'.get? location = tree.get? location

theorem Contained.refl (argv : List Text) (environment : Environment) (tree : FileTree) :
    Contained argv environment tree tree :=
  ⟨fun _ bytes h => ⟨bytes, h⟩, fun _ => rfl, fun _ h => absurd rfl h,
    fun _ _ _ _ _ _ _ _ _ _ => rfl⟩

/-- However the build command ends, it writes nothing but what it may write. -/
theorem contained_build (argv : List Text) (environment : Environment) (tree : FileTree)
    (printed : List Text) :
    Contained argv environment tree ((build argv environment).run ⟨tree, printed⟩).2.tree := by
  by_cases hreaches : ∃ setup : Setup, setup.Reaches argv environment tree
  · obtain ⟨setup, hreaches⟩ := hreaches
    obtain ⟨outcome, hends, hrun⟩ := ends_build hreaches printed
    have hsame := Setup.sameBut_of_ends hreaches.unmarked hends
    rw [hrun]
    refine ⟨hsame.files, fun hblocked => (hblocked.quiet hreaches).tree_of_ends hends,
      fun location hdiffers => ?_, ?_⟩
    · refine ⟨setup, argumentsOf?_of_reaches hreaches, ?_⟩
      by_contra htouched
      exact hdiffers (hsame.untouched location htouched)
    · intro other harguments hconfig paths hlisted path hpath hkeeps location hplace
      obtain rfl := hreaches.setup_eq harguments hconfig
      obtain ⟨⟨session, hkept⟩, hdocument⟩ := hkeeps
      rw [Session.transform_eq (Session.consistent_start other.config) rfl] at hkept
      refine hsame.untouched location (Setup.not_touches_of_kept hlisted hpath hplace ?_ ?_)
      · rw [← hplace]
        exact hdocument.symm
      · exact (Prod.mk.inj (Except.ok.inj hkept)).1
  · rw [(idle_build_of_not_reaches (not_exists.1 hreaches) printed).tree]
    exact .refl argv environment tree

end Command

end ClassScope
