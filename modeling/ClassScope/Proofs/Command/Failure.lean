import ClassScope.Proofs.Command.BuildRun
import ClassScope.Proofs.Command.ClassMap

/-!
# Builds that fail

Modules are written one by one before the manifest and the document are read, so a build that fails
may have rewritten files. Main statements:

- `Setup.tree_of_ends_error`: what a build that fails leaves;
- `failed_build_intact_iff`: a build that fails leaves all files as they were exactly if what it
  rewrote says what it said before.
-/

namespace ClassScope

/-! ## Trees that look alike -/

namespace FileTree

variable {tree tree' : FileTree}

/-- The same stands everywhere in two trees. -/
def SameView (tree tree' : FileTree) : Prop :=
  ∀ location, tree'.get? location = tree.get? location

theorem SameView.directories (h : SameView tree tree') : SameDirectories tree tree' :=
  fun location => by rw [h location]

theorem SameView.standing? (h : SameView tree tree') (place : Place) :
    tree'.standing? place = tree.standing? place := by
  by_cases hinside : place.isInside
  · obtain ⟨location, rfl⟩ := Place.exists_of_isInside hinside
    exact h location
  · exact standing?_outside hinside tree tree'

theorem SameView.look (h : SameView tree tree') (path : Path) : tree'.look path = tree.look path :=
  look_congr h.directories fun place _ => h.standing? place

end FileTree

namespace Command

variable {tree mid final : FileTree} {backup : Bool} {change : Change} {changes : List Change}
  {setup : Setup}

/-! ## Changes that say what was said before -/

/-- The change leaves the files as they are: the file has the bytes already, and there is no need
for a new spare copy. -/
def Change.Neutral (backup : Bool) (tree : FileTree) (change : Change) : Prop :=
  ∀ location, tree.locate change.path = .ok (.inside location) →
    tree.get? location = some (.file change.new.written) ∧
      (backup = true → tree.look change.path.spare ≠ .ok none)

/-- A neutral change leaves all as it is. -/
theorem Change.Neutral.sameView {place : Place} {bytes : List UInt8}
    (h : change.Neutral backup tree) (hplace : tree.locate change.path = .ok place)
    (hfile : tree.standing? place = some (.file bytes)) :
    tree.SameView (change.apply backup tree) := by
  -- Neither the file nor a new spare copy differs from what stands there.
  intro location
  by_cases hinside : place.isInside
  · obtain ⟨other, rfl⟩ := Place.exists_of_isInside hinside
    obtain ⟨hsame, hspare⟩ := h other hplace
    rw [get?_apply hplace hfile]
    split
    · rename_i heq
      cases heq
      exact hsame.symm
    · rw [if_neg]
      rintro ⟨hbackup, hlocate, hnone⟩
      refine hspare hbackup ?_
      rw [FileTree.look_of_locate hlocate, FileTree.standing?, hnone]
  · rw [apply_outside hplace hfile hinside]

/-- Neutral changes leave all as it is. -/
theorem sameView_rewriteAll
    (hfiles : ∀ change ∈ changes, ∃ place bytes, tree.locate change.path = .ok place ∧
      tree.standing? place = some (.file bytes))
    (h : ∀ change ∈ changes, change.Neutral backup tree) :
    tree.SameView (rewriteAll backup changes tree) := by
  induction changes generalizing tree with
  | nil => exact fun _ => rfl
  | cons change changes ih =>
    obtain ⟨place, bytes, hplace, hfile⟩ := hfiles change List.mem_cons_self
    have hsame := (h change List.mem_cons_self).sameView hplace hfile
    have hlocate : ∀ path place, (change.apply backup tree).locate path = .ok place ↔
        tree.locate path = .ok place := fun _ _ => FileTree.locate_congr hsame.directories
    -- After a change that leaves all as it is, the others are neutral still.
    have hrest : (change.apply backup tree).SameView
        (rewriteAll backup changes (change.apply backup tree)) := by
      refine ih ?_ ?_
      · intro other hother
        obtain ⟨place, bytes, hplace, hfile⟩ := hfiles other (List.mem_cons_of_mem _ hother)
        exact ⟨place, bytes, (hlocate _ _).2 hplace, (hsame.standing? place).trans hfile⟩
      · intro other hother location hplace
        have hother := h other (List.mem_cons_of_mem _ hother) location ((hlocate _ _).1 hplace)
        rwa [hsame location, hsame.look]
    exact fun location => (hrest location).trans (hsame location)

/-- A change that leaves all as it was in another tree with the same directories is neutral there.
-/
theorem Change.neutral_of_sameView {place : Place} {bytes : List UInt8}
    (hdirectories : tree.SameDirectories mid) (hplace : mid.locate change.path = .ok place)
    (hfile : mid.standing? place = some (.file bytes))
    (hsame : tree.SameView (change.apply backup mid)) : change.Neutral backup tree := by
  intro location hlocate
  obtain rfl : place = .inside location :=
    Except.ok.inj (hplace.symm.trans ((FileTree.locate_congr hdirectories).2 hlocate))
  have hnew : tree.get? location = some (.file change.new.written) := by
    rw [← hsame location, get?_apply hplace hfile, if_pos rfl]
  refine ⟨hnew, ?_⟩
  rintro rfl hmissing
  obtain ⟨spare, hspare, hnone⟩ := Change.locate_spare_of_missing hlocate hnew hmissing
  -- Whatever stood there in the other tree, something does after the change.
  have hafter := hsame spare
  rw [hnone, get?_apply hplace hfile] at hafter
  split at hafter
  · cases hafter
  · split at hafter
    · cases hafter
    · rename_i hfree
      exact hfree ⟨rfl, (FileTree.locate_congr hdirectories).2 hspare, hafter⟩

/-- Changes of different files are neutral when all is as it was later, with their files as they
left them. -/
theorem neutral_of_sameView (h : ChangesAt tree changes)
    (hkept : ∀ change ∈ changes, ∀ location, tree.locate change.path = .ok (.inside location) →
      final.get? location = (rewriteAll backup changes tree).get? location)
    (hfiles : ∀ location bytes, (rewriteAll backup changes tree).get? location =
      some (.file bytes) → ∃ bytes', final.get? location = some (.file bytes'))
    (hsame : tree.SameView final) : ∀ change ∈ changes, change.Neutral backup tree := by
  intro change hchange location hplace
  obtain ⟨location', bytes, hplace', hfile⟩ := h.leads _ (List.mem_map_of_mem hchange)
  cases Except.ok.inj (hplace.symm.trans hplace')
  refine ⟨?_, ?_⟩
  · rw [← hsame location, hkept change hchange location hplace]
    exact get?_rewriteAll_path h hchange hplace
  · rintro rfl hmissing
    obtain ⟨spare, hspare, hnone⟩ := Change.locate_spare_of_missing hplace hfile hmissing
    obtain ⟨bytes', hkept'⟩ := hfiles spare _ (get?_rewriteAll_spare h hchange hspare hnone)
    rw [hsame spare, hnone] at hkept'
    cases hkept'

/-! ## What builds that fail rewrite -/

namespace Setup

/-- The changes that a build writes before it fails: those of the modules up to the first whose
spare copy cannot be made, and that of the document if it comes to that. -/
def rewritings (setup : Setup) (tree : FileTree) : List Change :=
  match modulePaths tree setup.root with
  | .error _ => []
  | .ok paths =>
    let changes := setup.moduleChanges tree paths
    if ∀ change ∈ changes, change.Spared setup.arguments.backup then
      changes ++ ((setup.documentChange? (rewriteAll setup.arguments.backup changes tree)).filter
        fun change => change.Spared setup.arguments.backup).toList
    else changes.takeWhile fun change => change.Spared setup.arguments.backup

/-- Where all modules are written, they are rewritten and then the document, if it changes. -/
theorem ModulesDone.rewritings {paths : List Path} (h : setup.ModulesDone tree paths mid) :
    setup.rewritings tree = setup.moduleChanges tree paths ++
      ((setup.documentChange? mid).filter fun change =>
        change.Spared setup.arguments.backup).toList := by
  rw [Setup.rewritings, h.listed]
  dsimp only
  rw [if_pos h.spared, h.rewritten]

/-- A document that is not read does not change. -/
theorem documentChange?_eq_none
    (h : ∀ manifest old new, ¬ setup.DocumentRead mid manifest old new) :
    setup.documentChange? mid = none := by
  cases hchange : setup.documentChange? mid with
  | none => rfl
  | some change =>
    obtain ⟨manifest, old, new, hread, -⟩ := documentChange?_eq_some hchange
    exact absurd hread (h manifest old new)

/-- A build that fails leaves what its changes make of the files. -/
theorem tree_of_ends_error {stop : Stop} {space : Workspace}
    (h : setup.Ends tree (.error stop, space)) :
    space.tree = rewriteAll setup.arguments.backup (setup.rewritings tree) tree := by
  have hdone := fun {paths mid} (hmodules : setup.ModulesDone tree paths mid) =>
    rewriteAll_append setup.arguments.backup (setup.moduleChanges tree paths)
      ((setup.documentChange? mid).filter fun change =>
        change.Spared setup.arguments.backup).toList tree
  cases h with
  | unlisted h => rw [rewritings, h, rewriteAll_nil]
  | unspared hlisted h =>
    rw [rewritings, hlisted]
    dsimp only
    rw [if_neg h]
  | unread hmodules h =>
    rw [hmodules.rewritings, hdone hmodules, ← hmodules.rewritten, documentChange?_eq_none h]
    rfl
  | documentUnspared hmodules hchange h =>
    rw [hmodules.rewritings, hdone hmodules, ← hmodules.rewritten, hchange,
      Option.filter_some_neg (by simpa using h)]
    rfl
  | unencodable hmodules hchange hspared =>
    rw [hmodules.rewritings, hdone hmodules, ← hmodules.rewritten, hchange,
      Option.filter_some_pos (by simpa using hspared)]
    rfl
  | unmapped hmodules hdocument =>
    rw [hmodules.rewritings, hdone hmodules, ← hmodules.rewritten]
    unfold DocumentWritten at hdocument
    split at hdocument
    · rename_i hchange
      rw [hdocument, hchange]
      rfl
    · rename_i change hchange
      rw [hdocument.2.2, hchange, Option.filter_some_pos (by simpa using hdocument.1)]
      rfl

/-- A module that changes is not empty. -/
theorem look_ne_empty_of_mem {paths : List Path} (h : change ∈ setup.moduleChanges tree paths) :
    tree.look change.path ≠ .ok (some (.file [])) := by
  intro hempty
  have hchange := (of_mem_moduleChanges h).2
  rw [moduleChange?_of_empty hempty] at hchange
  cases hchange

/-- Where the class map cannot be written, no module is. -/
theorem moduleChanges_eq_nil {argv : List Text} {environment : Environment} {paths : List Path}
    {bytes : List UInt8} {e : FileError} (hreaches : setup.Reaches argv environment tree)
    (hmodules : setup.ModulesDone tree paths mid) (hdocument : setup.DocumentWritten mid final)
    (hlive : setup.live = true) (h : final.write setup.classMap bytes = .error e) :
    setup.moduleChanges tree paths = [] := by
  rw [List.eq_nil_iff_forall_not_mem]
  intro change hchange
  obtain ⟨location, hroot, hdirectory⟩ :=
    directory_of_mem_modulePaths hmodules.listed (of_mem_moduleChanges hchange).1
  have henabled := (live_iff.1 hlive).1
  obtain ⟨tree', hwrite, -⟩ := exists_write_classMap hroot hdirectory
    (hreaches.unmarked henabled) (hmodules.sameDirectories.trans hdocument.sameDirectories) bytes
  rw [classMap, hwrite] at h
  cases h

/-- The modules that were written say what they said before if all is as it was after the document
was left empty. -/
theorem neutral_of_truncated {paths : List Path} {document : Change} {e : Utf8.Unencodable}
    (hmodules : setup.ModulesDone tree paths mid)
    (hchange : setup.documentChange? mid = some document)
    (hencode : Utf8.encodeWide document.new = .error e)
    (hsame : tree.SameView (document.apply setup.arguments.backup mid)) :
    ∀ change ∈ setup.moduleChanges tree paths, change.Neutral setup.arguments.backup tree := by
  obtain ⟨place, bytes, hplace, hfile⟩ := exists_file_of_documentChange? hchange
  refine neutral_of_sameView (changesAt_moduleChanges hmodules.listed) ?_ ?_ hsame
  · intro other hother location hlocate
    have hwritten : mid.get? location = some (.file other.new.written) := by
      rw [hmodules.rewritten]
      exact get?_rewriteAll_path (changesAt_moduleChanges hmodules.listed) hother hlocate
    rw [← hmodules.rewritten]
    refine Change.get?_apply_of_ne hplace hfile ?_ (by simp [hwritten])
    -- Nothing is left of the document, so a module in its place was empty and did not change.
    rintro rfl
    have hempty : document.new.written = [] := by rw [WideText.written, hencode]
    have hbefore := hsame location
    rw [Change.get?_apply hplace hfile, if_pos rfl, hempty] at hbefore
    exact look_ne_empty_of_mem hother (look_file hlocate hbefore.symm)
  · intro location bytes' hbytes
    rw [← hmodules.rewritten] at hbytes
    exact Change.exists_file_apply hplace hfile location bytes' hbytes

/-- What a build that fails rewrote says what it said before if all files are as they were. -/
theorem neutral_of_ends_error {argv : List Text} {environment : Environment} {stop : Stop}
    {space : Workspace} (hreaches : setup.Reaches argv environment tree)
    (h : setup.Ends tree (.error stop, space)) (hsame : tree.SameView space.tree) :
    ∀ change ∈ setup.rewritings tree, change.Neutral setup.arguments.backup tree := by
  have hmodulesOnly : ∀ changes, ChangesAt tree changes →
      tree.SameView (rewriteAll setup.arguments.backup changes tree) →
      ∀ change ∈ changes, change.Neutral setup.arguments.backup tree := fun changes hchanges =>
    neutral_of_sameView hchanges (fun _ _ _ _ => rfl) (fun _ bytes hbytes => ⟨bytes, hbytes⟩)
  cases h with
  | unlisted h =>
    rw [rewritings, h]
    exact fun change hchange => absurd hchange List.not_mem_nil
  | unspared hlisted h =>
    rw [rewritings, hlisted]
    dsimp only
    rw [if_neg h]
    refine hmodulesOnly _ ?_ hsame
    exact (changesAt_moduleChanges hlisted).sublist ((List.takeWhile_sublist _).map _)
  | unread hmodules h =>
    rw [hmodules.rewritings, documentChange?_eq_none h]
    simp only [Option.filter_none, Option.toList_none, List.append_nil]
    rw [hmodules.rewritten] at hsame
    exact hmodulesOnly _ (changesAt_moduleChanges hmodules.listed) hsame
  | documentUnspared hmodules hchange h =>
    rw [hmodules.rewritings, hchange, Option.filter_some_neg (by simpa using h)]
    simp only [Option.toList_none, List.append_nil]
    rw [hmodules.rewritten] at hsame
    exact hmodulesOnly _ (changesAt_moduleChanges hmodules.listed) hsame
  | unencodable hmodules hchange hspared hencode =>
    obtain ⟨place, bytes, hplace, hfile⟩ := exists_file_of_documentChange? hchange
    have hdocument := Change.neutral_of_sameView hmodules.sameDirectories hplace hfile hsame
    have hmodulesNeutral := neutral_of_truncated hmodules hchange hencode hsame
    rw [hmodules.rewritings, hchange, Option.filter_some_pos (by simpa using hspared)]
    intro change hmem
    rcases List.mem_append.1 hmem with hmem | hmem
    · exact hmodulesNeutral change hmem
    · rw [Option.mem_toList, Option.some.injEq] at hmem
      exact hmem ▸ hdocument
  | unmapped hmodules hdocument hlive h =>
    have hnone := moduleChanges_eq_nil hreaches hmodules hdocument hlive h
    rw [hmodules.rewritings, hnone, List.nil_append]
    intro change hmem
    rw [Option.mem_toList, Option.filter_eq_some_iff] at hmem
    obtain ⟨place, bytes, hplace, hfile⟩ := exists_file_of_documentChange? hmem.1
    rw [DocumentWritten, hmem.1] at hdocument
    rw [hdocument.2.2] at hsame
    exact Change.neutral_of_sameView hmodules.sameDirectories hplace hfile hsame

/-- What a build rewrites before it fails are files of the tree. -/
theorem exists_file_of_mem_rewritings {argv : List Text} {environment : Environment}
    (hreaches : setup.Reaches argv environment tree) (h : change ∈ setup.rewritings tree) :
    ∃ place bytes, tree.locate change.path = .ok place ∧
      tree.standing? place = some (.file bytes) := by
  -- Modules are listed as files; the document may only be one because it was there before.
  have hmodule : ∀ paths, modulePaths tree setup.root = .ok paths →
      change ∈ setup.moduleChanges tree paths → ∃ place bytes,
        tree.locate change.path = .ok place ∧ tree.standing? place = some (.file bytes) := by
    intro paths hlisted hmem
    obtain ⟨location, bytes, hplace, hfile⟩ :=
      (changesAt_moduleChanges hlisted).leads _ (List.mem_map_of_mem hmem)
    exact ⟨_, bytes, hplace, hfile⟩
  unfold rewritings at h
  split at h
  · cases h
  · rename_i paths hlisted
    dsimp only at h
    split at h
    · rename_i hspared
      rcases List.mem_append.1 h with h | h
      · exact hmodule paths hlisted h
      · -- The document was there before the modules were written.
        rw [Option.mem_toList, Option.filter_eq_some_iff] at h
        obtain ⟨place, bytes, hplace, hfile⟩ := exists_file_of_documentChange? h.1
        have hmodules : setup.ModulesDone tree paths _ := ⟨hlisted, hspared, rfl⟩
        have hplace' := (FileTree.locate_congr hmodules.sameDirectories).1 hplace
        have hthere := hreaches.document
        have hpath : change.path = setup.document := by
          obtain ⟨manifest, old, new, -, rfl, -⟩ := documentChange?_eq_some h.1
          rfl
        rw [← hpath, FileTree.has, FileTree.look_of_locate hplace'] at hthere
        cases hstanding : tree.standing? place with
        | none =>
          rw [hstanding] at hthere
          cases hthere
        | some entry =>
          cases entry with
          | file old => exact ⟨place, old, hplace', hstanding⟩
          | directory =>
            rw [(hmodules.sameDirectories.standing? place).2 hstanding] at hfile
            cases hfile
    · exact hmodule paths hlisted ((List.takeWhile_sublist _).subset h)

end Setup

/-! ## Builds that fail -/

/-- A build that fails leaves all files as they were exactly if what it rewrote before it failed
says what it said before. -/
theorem failed_build_intact_iff {argv : List Text} {environment : Environment}
    {printed : List Text} {stop : Stop}
    (h : ((build argv environment).run ⟨tree, printed⟩).1 = .error stop) :
    (∀ location, ((build argv environment).run ⟨tree, printed⟩).2.tree.get? location =
        tree.get? location) ↔
      ∀ setup : Setup, setup.Reaches argv environment tree →
        ∀ change ∈ setup.rewritings tree, change.Neutral setup.arguments.backup tree := by
  have hends : ∀ setup : Setup, setup.Reaches argv environment tree →
      ∃ space, setup.Ends tree (.error stop, space) ∧
        ((build argv environment).run ⟨tree, printed⟩).2 = space := by
    intro setup hreaches
    obtain ⟨⟨result, space⟩, hends, hrun⟩ := ends_build hreaches printed
    rw [hrun] at h ⊢
    cases result with
    | ok session => cases h
    | error stop' =>
      cases h
      exact ⟨space, hends, rfl⟩
  constructor
  -- What the build rewrote is compared with the tree it started on.
  · intro hsame setup hreaches
    obtain ⟨space, hends, hspace⟩ := hends setup hreaches
    rw [hspace] at hsame
    exact Setup.neutral_of_ends_error hreaches hends hsame
  · intro hneutral
    -- A command that does not get to its modules has written nothing.
    by_cases hreaches : ∃ setup : Setup, setup.Reaches argv environment tree
    · obtain ⟨setup, hreaches⟩ := hreaches
      obtain ⟨space, hends, hspace⟩ := hends setup hreaches
      rw [hspace, Setup.tree_of_ends_error hends]
      exact sameView_rewriteAll (fun change => Setup.exists_file_of_mem_rewritings hreaches)
        (hneutral setup hreaches)
    · rw [(idle_build_of_not_reaches (not_exists.1 hreaches) printed).tree]
      exact fun location => rfl

/-- A build of a site with unusable names in its manifest fails after its stylesheet was rewritten,
and a build without that manifest then puts the class in scope once more. -/
theorem failed_build_sheetSite :
    let first := (build [Text.of "--root", Text.of "d"] []).run ⟨sheetSite, []⟩
    let second := (build [Text.of "--root", Text.of "d", Text.of "--manifest", Text.of "n"] []).run
      ⟨first.2.tree, []⟩
    let sheet : Location := [Text.of "d", Text.of "a.css"]
    first.1.isOk = false ∧
      sheetSite.get? sheet = some (.file (Utf8.encode (Text.of ".a\x7b\x7d"))) ∧
      first.2.tree.get? sheet = some (.file (Utf8.encode (Text.of ".dwp-a\x7b\x7d"))) ∧
      second.2.tree.get? sheet = some (.file (Utf8.encode (Text.of ".dwp-dwp-a\x7b\x7d"))) := by
  have hreaches : (plainSetup none).Reaches [Text.of "--root", Text.of "d"] [] sheetSite :=
    reaches_iff.2 ⟨by decide +kernel, by decide +kernel⟩
  intro first
  have hfirst := run_build_of_listed hreaches modulePaths_sheetSite []
  change first = _ at hfirst
  clear_value first
  -- What the first build leaves has the same modules.
  have hroot : first.2.tree.locate (.ofText (Text.of "d")) = .ok (.inside [['d']]) := by
    rw [hfirst]
    decide +kernel
  have hbelow : (first.2.tree.below [['d']]).map Prod.fst =
      [[Text.of "a.css"], [Text.of "index.html"], [Text.of "manifest.json"]] := by
    rw [hfirst]
    exact FileTree.names_below_eq (by decide +kernel) (by decide +kernel) (by decide +kernel)
  have hlisted : modulePaths first.2.tree (.ofText (Text.of "d")) = .ok [sheetPath] := by
    rw [modulePaths_of_below hroot hbelow, hfirst]
    decide +kernel
  have hagain : (plainSetup (some (Text.of "n"))).Reaches
      [Text.of "--root", Text.of "d", Text.of "--manifest", Text.of "n"] [] first.2.tree := by
    rw [hfirst]
    exact reaches_iff.2 ⟨by decide +kernel, by decide +kernel⟩
  dsimp only
  rw [run_build_of_listed hagain hlisted, hfirst]
  decide +kernel

/-- What that build rewrote does not say what it said before. -/
theorem failed_build_not_intact_sheetSite :
    ∃ stop, ((build [Text.of "--root", Text.of "d"] []).run ⟨sheetSite, []⟩).1 = .error stop ∧
      ∃ setup : Setup, setup.Reaches [Text.of "--root", Text.of "d"] [] sheetSite ∧
        ∃ change ∈ setup.rewritings sheetSite,
          ¬ change.Neutral setup.arguments.backup sheetSite := by
  obtain ⟨hfails, hbefore, hafter, -⟩ := failed_build_sheetSite
  cases hresult : ((build [Text.of "--root", Text.of "d"] []).run ⟨sheetSite, []⟩).1 with
  | ok session =>
    rw [hresult] at hfails
    cases hfails
  | error stop =>
    refine ⟨stop, rfl, ?_⟩
    by_contra hneutral
    push Not at hneutral
    have hintact := (failed_build_intact_iff hresult).2 hneutral [Text.of "d", Text.of "a.css"]
    rw [hafter, hbefore, Text.of_eq_toList, Text.of_eq_toList] at hintact
    exact absurd hintact (by decide)

end Command

end ClassScope
