import ClassScope.Proofs.Command.BuildRun
import ClassScope.Proofs.Command.ClassMap

/-!
# What builds write

The build command works on one file after the other. What it gives and leaves in the end is what a
build does that has all texts at hand: no file is read after another one was written over it. Main
statements:

- `look_rewriteAll_of_apart`: paths at whose ends changes of other files show nothing new;
- `Setup.Apart.alike_announceManifest`, `Setup.ModulesDone.readText_document`: the manifest and the
  document are read as if no module had been written;
- `Setup.Ready.done`: how a build ends that has all it needs;
- `build_refines`: what it gives, prints and leaves is what `Build.run` says.
-/

namespace ClassScope.Command

variable {tree mid final : FileTree} {path : Path} {paths : List Path} {backup : Bool}
  {change : Change} {changes : List Change}

/-! ## Paths at whose ends nothing changes -/

/-- The same is seen after some changes at the end of a path that leads to none of the files, and to
none of the places of spare copies. -/
theorem look_rewriteAll_of_apart (h : ChangesAt tree changes)
    (hapart : ∀ change ∈ changes, tree.locate change.path ≠ tree.locate path)
    (hname : tree.look path = .ok none → ¬ Path.spareEnding <:+ path.name) :
    (rewriteAll backup changes tree).look path = tree.look path := by
  refine FileTree.look_congr (h.sameDirectories backup) fun place hplace => ?_
  by_cases hinside : place.isInside
  · obtain ⟨location, rfl⟩ := Place.exists_of_isInside hinside
    refine get?_rewriteAll_of_untouched h ?_ ?_
    · intro change hchange hlocate
      exact hapart change hchange (hlocate.trans hplace.symm)
    · intro _ hfree change hchange hspare
      obtain ⟨location', bytes, hplace', hfile⟩ := h.leads _ (List.mem_map_of_mem hchange)
      obtain ⟨front, hlocation⟩ := FileTree.name_of_locate_spare hplace' hfile hspare
      -- A path to a free place ends in the name that a file would get there.
      have hstanding : tree.standing? (.inside location) = none := hfree
      obtain ⟨-, directory, hchild, -⟩ := FileTree.locate_child hplace (by simp [hstanding])
      obtain ⟨front', -, hlocation'⟩ := Place.child_eq_inside_iff.1 hchild.symm
      rw [hlocation] at hlocation'
      have hlast : change.path.name ++ Path.spareEnding = path.name :=
        List.singleton_inj.1 (List.append_inj' hlocation' rfl).2
      refine hname ?_ ⟨_, hlast⟩
      rw [FileTree.look_of_locate hplace, hstanding]
  · exact FileTree.standing?_outside hinside _ _

/-- Paths to the same file have the same last part. -/
theorem name_eq_of_locate {other : Path} {place : Place} {bytes : List UInt8}
    (hplace : tree.locate path = .ok place) (hother : tree.locate other = .ok place)
    (hfile : tree.standing? place = some (.file bytes)) : path.name = other.name := by
  obtain ⟨-, directory, hchild, -⟩ := FileTree.locate_file hplace hfile
  obtain ⟨-, directory', hchild', -⟩ := FileTree.locate_file hother hfile
  exact (Place.child_inj.1 (hchild.symm.trans hchild')).2

/-! ## What a build gives to files -/

/-- The change that gives a file a new text, unless it has that text already. -/
def changeTo? (tree : FileTree) (path : Path) (new : WideText) : Option Change :=
  if new = .ofText (textAt tree path) then none else some ⟨path, textAt tree path, new⟩

/-- The changes that give files their new texts. -/
def changesTo (tree : FileTree) (outputs : List (Path × WideText)) : List Change :=
  outputs.filterMap fun output => changeTo? tree output.1 output.2

/-- The paths of modules, with the texts that a build gives them. -/
def moduleOutputs (paths : List Path) (result : Build) : List (Path × WideText) :=
  (paths.zip result.modules).map fun (path, module) => (path, .ofText module.2)

variable {result : Build}

theorem path_of_changeTo? {new : WideText} (h : changeTo? tree path new = some change) :
    change.path = path := by
  unfold changeTo? at h
  split at h
  · cases h
  · rw [← Option.some.inj h]

/-- The changes are of different files when the outputs are. -/
theorem changesAt_changesTo {outputs : List (Path × WideText)}
    (h : tree.FilesAt (outputs.map Prod.fst)) :
    ChangesAt tree (changesTo tree outputs) :=
  h.sublist (map_path_filterMap_sublist _ Prod.fst (fun _ _ => path_of_changeTo?) outputs)

/-- What changes has the text of an output. -/
theorem mem_changesTo {outputs : List (Path × WideText)} :
    change ∈ changesTo tree outputs ↔
      ∃ output ∈ outputs, changeTo? tree output.1 output.2 = some change :=
  List.mem_filterMap

/-- A file that is given a new text has it, and keeps its bytes if the new text is the old one. -/
theorem get?_rewriteAll_output {outputs : List (Path × WideText)} {output : Path × WideText}
    {location : Location} {bytes : List UInt8} (h : tree.FilesAt (outputs.map Prod.fst))
    (houtput : output ∈ outputs) (hplace : tree.locate output.1 = .ok (.inside location))
    (hfile : tree.get? location = some (.file bytes)) :
    (rewriteAll backup (changesTo tree outputs) tree).get? location =
      some (.file (if output.2 = .ofText (textAt tree output.1) then bytes
        else output.2.written)) := by
  have hchanges := changesAt_changesTo h
  cases hchange : changeTo? tree output.1 output.2 with
  | none =>
    have hsame : output.2 = .ofText (textAt tree output.1) := by
      by_contra hnew
      rw [changeTo?, if_neg hnew] at hchange
      cases hchange
    rw [if_pos hsame, ← hfile]
    refine get?_rewriteAll_of_untouched hchanges ?_ ?_
    · intro change hmem hlocate
      -- A change of this file would come from this output.
      obtain ⟨other, hother, hsome⟩ := mem_changesTo.1 hmem
      rw [path_of_changeTo? hsome] at hlocate
      rw [h.eq_of_locate houtput hother (hplace.trans hlocate.symm), hsome] at hchange
      cases hchange
    · intro _ hnone
      rw [hfile] at hnone
      cases hnone
  | some change =>
    have hnew : output.2 ≠ .ofText (textAt tree output.1) := by
      intro hsame
      rw [changeTo?, if_pos hsame] at hchange
      cases hchange
    have hmem : change ∈ changesTo tree outputs := mem_changesTo.2 ⟨output, houtput, hchange⟩
    rw [if_neg hnew, get?_rewriteAll_path hchanges hmem (path_of_changeTo? hchange ▸ hplace)]
    rw [changeTo?, if_neg hnew] at hchange
    rw [← Option.some.inj hchange]

/-- A build gives each module the text after its pass. -/
theorem moduleOutputs_eq {config : Config}
    (h : result.modules = config.moduleTexts (sourcesAt tree paths)) :
    moduleOutputs paths result =
      paths.map fun path => (path, .ofText (config.moduleText path.name (textAt tree path))) := by
  have hmodules : result.modules =
      paths.map fun path => (path.name, config.moduleText path.name (textAt tree path)) := by
    rw [h, Config.moduleTexts, sourcesAt, List.map_map]
    rfl
  -- The modules of the build come in the order of the paths.
  have hzip : paths.zip result.modules = paths.map fun path =>
      (path, path.name, config.moduleText path.name (textAt tree path)) := by
    have hpairs := (List.zip_map' (l := paths) (f := fun path => path)
      (g := fun path => (path.name, config.moduleText path.name (textAt tree path))))
    rwa [List.map_id', ← hmodules] at hpairs
  rw [moduleOutputs, hzip, List.map_map]
  rfl

/-- What a build gives the modules changes them as their passes do. -/
theorem changesTo_moduleOutputs {config : Config}
    (h : result.modules = config.moduleTexts (sourcesAt tree paths)) :
    changesTo tree (moduleOutputs paths result) = moduleChanges config tree paths := by
  rw [changesTo, moduleOutputs_eq h, List.filterMap_map, moduleChanges]
  refine List.filterMap_congr fun path _ => ?_
  simp only [Function.comp_apply, changeTo?, moduleChange?, WideText.ofText_inj]

/-! ## Builds that have all they need -/

/-- The last part of the path of a manifest that is found. -/
theorem name_of_mem_manifestPlaces {root : Path} (h : path ∈ manifestPlaces.map root.join) :
    path.name = Text.of "manifest.json" := by
  have hnested : Path.ofText (Text.of ".vite/manifest.json") =
      ⟨[], [Text.of ".vite", Text.of "manifest.json"]⟩ := by
    simp only [Text.of_eq_toList]
    rfl
  have hdirect : Path.ofText (Text.of "manifest.json") = ⟨[], [Text.of "manifest.json"]⟩ := by
    simp only [Text.of_eq_toList]
    rfl
  obtain ⟨place, hplace, rfl⟩ := List.mem_map.1 h
  rw [manifestPlaces, List.mem_cons, List.mem_singleton] at hplace
  rcases hplace with rfl | rfl
  · rw [Path.join, hnested, if_pos rfl, Path.name]
    simp
  · rw [Path.join, hdirect, if_pos rfl, Path.name]
    simp

/-- A path with the name of a manifest is no module, and no spare copy. -/
theorem manifestName_spec (h : path.name = Text.of "manifest.json") :
    isModule path = false ∧ ¬ Path.spareEnding <:+ path.name := by
  rw [isModule, h, Path.spareEnding_eq, moduleSuffixes, ModuleKind.scriptSuffix,
    ModuleKind.styleSuffix]
  simp only [Text.of_eq_toList]
  decide

/-- A class map is no spare copy. -/
theorem not_spareEnding_classMapName : ¬ Path.spareEnding <:+ classMapName := by
  rw [Path.spareEnding_eq, classMapName, Text.of_eq_toList]
  decide

namespace Setup

variable {setup : Setup} {manifest : Manifest}

/-- The document and the manifest are other files than the modules, and the manifest is not named
like a spare copy. -/
structure Apart (setup : Setup) (tree : FileTree) : Prop where
  /-- The document is no module. -/
  document : ∀ paths, modulePaths tree setup.root = .ok paths →
    ∀ path ∈ paths, tree.locate path ≠ tree.locate setup.document
  /-- The manifest that is given is no module, and is not named like a spare copy. -/
  manifest : ∀ path, path? setup.arguments.manifest = some path →
    (∀ paths, modulePaths tree setup.root = .ok paths →
      ∀ module ∈ paths, tree.locate module ≠ tree.locate path) ∧ ¬ Path.spareEnding <:+ path.name

/-- A path that leads to no module shows what it showed before the modules were written, unless it
is free and named like a spare copy. -/
theorem ModulesDone.look_eq (h : setup.ModulesDone tree paths mid)
    (hapart : ∀ module ∈ paths, tree.locate module ≠ tree.locate path)
    (hname : tree.look path = .ok none → ¬ Path.spareEnding <:+ path.name) :
    mid.look path = tree.look path := by
  rw [h.rewritten]
  refine look_rewriteAll_of_apart (changesAt_moduleChanges h.listed) ?_ hname
  exact fun change hchange => hapart change.path (of_mem_moduleChanges hchange).1

/-- A document that is there and is no module is seen as if no module had been written. -/
theorem ModulesDone.look_document (h : setup.ModulesDone tree paths mid)
    (hapart : ∀ path ∈ paths, tree.locate path ≠ tree.locate setup.document)
    (hhas : tree.has setup.document = .ok true) :
    mid.look setup.document = tree.look setup.document := by
  refine h.look_eq hapart fun hnone => ?_
  rw [FileTree.has, hnone] at hhas
  cases hhas

/-- So its text is read as if no module had been written. -/
theorem ModulesDone.readText_document (h : setup.ModulesDone tree paths mid)
    (hapart : ∀ path ∈ paths, tree.locate path ≠ tree.locate setup.document)
    (hhas : tree.has setup.document = .ok true) :
    mid.readText setup.document = tree.readText setup.document := by
  rw [FileTree.readText, FileTree.readText, FileTree.read_congr hhas (h.look_document hapart hhas)]

namespace Apart

/-- The manifest is found and read as if no module had been written. -/
theorem alike_announceManifest (h : setup.Apart tree)
    (hmodules : setup.ModulesDone tree paths mid) :
    (announceManifest setup.root setup.arguments.manifest).Alike tree mid := by
  refine Command.alike_announceManifest (fun path hpath => ?_) fun _ path hpath => ?_
  · obtain ⟨hmodule, hname⟩ := h.manifest path hpath
    exact hmodules.look_eq (hmodule paths hmodules.listed) fun _ => hname
  · obtain ⟨hmodule, hname⟩ := manifestName_spec (name_of_mem_manifestPlaces hpath)
    refine hmodules.look_eq (fun module hmem heq => ?_) fun _ => hname
    -- A module in the place of a manifest would have its name.
    obtain ⟨location, bytes, hplace, hfile⟩ :=
      (filesAt_modulePaths hmodules.listed).leads module hmem
    have hsameName := name_eq_of_locate hplace (heq ▸ hplace) hfile
    have hsuffix := isModule_of_mem_modulePaths hmodules.listed hmem
    rw [isModule, hsameName] at hsuffix
    rw [isModule, hsuffix] at hmodule
    cases hmodule

theorem answer_manifestOf (h : setup.Apart tree) (hmodules : setup.ModulesDone tree paths mid) :
    (manifestOf setup.root setup.arguments.manifest).answer mid =
      (manifestOf setup.root setup.arguments.manifest).answer tree := by
  rw [← answer_announceManifest, ← answer_announceManifest]
  exact (h.alike_announceManifest hmodules).answer

/-- What changes in the document is what would change if no module had been written. -/
theorem documentChange?_eq (h : setup.Apart tree) (hmodules : setup.ModulesDone tree paths mid)
    (hhas : tree.has setup.document = .ok true) :
    setup.documentChange? mid = setup.documentChange? tree := by
  rw [documentChange?, documentChange?, h.answer_manifestOf hmodules,
    hmodules.readText_document (h.document paths hmodules.listed) hhas]

end Apart

/-- The paths of the modules and of the document, with the texts that a build gives them. -/
def outputs (setup : Setup) (paths : List Path) (result : Build) : List (Path × WideText) :=
  moduleOutputs paths result ++ [(setup.document, result.html)]

/-- A build has its modules, its document and its manifest, none of which is another one's file. -/
structure Ready (setup : Setup) (tree : FileTree) (paths : List Path) (manifest : Manifest) :
    Prop where
  /-- The build puts names in scope and writes files. -/
  live : setup.live = true
  /-- The modules. -/
  listed : modulePaths tree setup.root = .ok paths
  /-- The document is a file. -/
  document : ∃ location bytes, tree.locate setup.document = .ok (.inside location) ∧
    tree.get? location = some (.file bytes)
  /-- The document is no module. -/
  documentApart : ∀ path ∈ paths, tree.locate path ≠ tree.locate setup.document
  /-- The manifest can be read. -/
  manifest : (manifestOf setup.root setup.arguments.manifest).answer tree = .ok manifest
  /-- The manifest that is given is no module, and is not named like a spare copy. -/
  manifestApart : ∀ path, path? setup.arguments.manifest = some path →
    (∀ module ∈ paths, tree.locate module ≠ tree.locate path) ∧ ¬ Path.spareEnding <:+ path.name

/-- What a build gives can be written. -/
structure Writable (setup : Setup) (tree : FileTree) (paths : List Path) (result : Build) :
    Prop where
  /-- The build directory is one. -/
  root : tree.look setup.root = .ok (some .directory)
  /-- The finished document has bytes. -/
  encodable : ∃ bytes, Utf8.encodeWide result.html = .ok bytes
  /-- The paths of spare copies that are asked for are not too long. -/
  spared : ∀ change ∈ changesTo tree (setup.outputs paths result),
    change.Spared setup.arguments.backup

/-- `tree'` holds what a build gives: the new texts, the spare copies and the class map. All else is
as it was. -/
structure Delivers (setup : Setup) (tree : FileTree) (paths : List Path) (result : Build)
    (tree' : FileTree) : Prop where
  /-- Every module, and the document, has its new text, or the bytes it had if that is the old one.
  -/
  outputs : ∀ output ∈ setup.outputs paths result, ∃ bytes,
    tree.look output.1 = .ok (some (.file bytes)) ∧
      tree'.look output.1 = .ok (some (.file
        (if output.2 = .ofText (textAt tree output.1) then bytes else output.2.written)))
  /-- The class map holds the names of the session. -/
  classMap : tree'.look setup.classMap =
    .ok (some (.file (Utf8.encode (classMapText result.session.registry))))
  /-- Spare copies that are asked for hold the old texts, where nothing had their names. -/
  spares : setup.arguments.backup = true →
    ∀ change ∈ changesTo tree (setup.outputs paths result),
      tree.look change.path.spare = .ok none →
        tree'.look change.path.spare = .ok (some (.file (Utf8.encode change.old)))
  /-- All else is as it was. -/
  others : ∀ location, tree.locate setup.classMap ≠ .ok (.inside location) →
    (∀ change ∈ changesTo tree (setup.outputs paths result),
      tree.locate change.path ≠ .ok (.inside location) ∧
        (setup.arguments.backup = true → tree.get? location = none →
          tree.locate change.path.spare ≠ .ok (.inside location))) →
    tree'.get? location = tree.get? location

/-- The modules and the document are files, each another one. -/
theorem Ready.filesAt (h : setup.Ready tree paths manifest) :
    tree.FilesAt (paths ++ [setup.document]) where
  leads path hpath := by
    rcases List.mem_append.1 hpath with hpath | hpath
    · exact (filesAt_modulePaths h.listed).leads path hpath
    · rw [List.mem_singleton.1 hpath]
      exact h.document
  apart := by
    refine List.pairwise_append.2 ⟨(filesAt_modulePaths h.listed).apart, ?_, ?_⟩
    · exact List.pairwise_singleton _ _
    · intro path hpath document hdocument
      rw [List.mem_singleton.1 hdocument]
      exact h.documentApart path hpath

/-- The paths of what a build gives are those of its modules and of its document. -/
theorem map_fst_outputs
    (h : result.modules = setup.config.moduleTexts (sourcesAt tree paths)) :
    (setup.outputs paths result).map Prod.fst = paths ++ [setup.document] := by
  rw [outputs, moduleOutputs_eq h, List.map_append, List.map_map]
  exact congrArg (· ++ [setup.document]) (List.map_id' paths)

/-- A live build is no dry run. -/
theorem Ready.moduleChanges (h : setup.Ready tree paths manifest) :
    setup.moduleChanges tree paths = Command.moduleChanges setup.config tree paths := by
  rw [Setup.moduleChanges, BuildArguments.written, if_neg (by simp [(live_iff.1 h.live).2])]

/-- What a build reads of its manifest and its document is another file than any of its modules, and
no new spare copy of one. -/
theorem Ready.apart (h : setup.Ready tree paths manifest) : setup.Apart tree where
  document paths' hlisted path hpath := by
    cases Except.ok.inj (h.listed.symm.trans hlisted)
    exact h.documentApart path hpath
  manifest path hpath := by
    obtain ⟨hmodules, hname⟩ := h.manifestApart path hpath
    refine ⟨fun paths' hlisted module hmodule => ?_, hname⟩
    cases Except.ok.inj (h.listed.symm.trans hlisted)
    exact hmodules module hmodule

/-- The manifest is read as if no module had been written. -/
theorem Ready.answer_manifestOf (h : setup.Ready tree paths manifest)
    (hmodules : setup.ModulesDone tree paths mid) :
    (manifestOf setup.root setup.arguments.manifest).answer mid = .ok manifest := by
  rw [h.apart.answer_manifestOf hmodules, h.manifest]

/-- The document is read as if no module had been written. -/
theorem Ready.look_document (h : setup.Ready tree paths manifest)
    (hmodules : setup.ModulesDone tree paths mid) :
    mid.look setup.document = tree.look setup.document := by
  obtain ⟨location, bytes, hplace, hfile⟩ := h.document
  refine hmodules.look_document (h.apart.document paths hmodules.listed)
    (FileTree.has_eq_true_iff.2 ⟨.file bytes, ?_⟩)
  exact look_file hplace hfile

/-- The text of the document is read as if no module had been written. -/
theorem Ready.readText_document (h : setup.Ready tree paths manifest)
    (hmodules : setup.ModulesDone tree paths mid) :
    mid.readText setup.document = .ok (textAt tree setup.document) := by
  obtain ⟨location, bytes, hplace, hfile⟩ := h.document
  have hlook := look_file hplace hfile
  have hsame := h.look_document hmodules
  rw [readText_eq (hsame.trans hlook), textAt_congr hlook hsame]

/-- The document changes as the build says. -/
theorem Ready.documentChange?_eq (h : setup.Ready tree paths manifest)
    (hmodules : setup.ModulesDone tree paths mid) {new : WideText}
    (hnew : setup.config.finishedMarkup manifest (textAt tree setup.document) = .ok new) :
    setup.documentChange? mid = changeTo? tree setup.document new := by
  simp only [documentChange?, h.answer_manifestOf hmodules, h.readText_document hmodules, hnew,
    changeTo?, (live_iff.1 h.live).2, Bool.false_eq_true, or_false]

/-- What a build gives changes the modules and then the document. -/
theorem Ready.changesTo_outputs (h : setup.Ready tree paths manifest)
    (htexts : result.modules = setup.config.moduleTexts (sourcesAt tree paths)) :
    changesTo tree (setup.outputs paths result) =
      setup.moduleChanges tree paths ++ (changeTo? tree setup.document result.html).toList := by
  rw [h.moduleChanges, ← changesTo_moduleOutputs htexts, outputs, changesTo, List.filterMap_append,
    changesTo]
  cases hchange : changeTo? tree setup.document result.html <;> simp [hchange]

/-- What a build writes of its modules and its document, it gives them. -/
theorem Ready.rewriteAll_outputs (h : setup.Ready tree paths manifest)
    (hmodules : setup.ModulesDone tree paths mid) (hdocument : setup.DocumentWritten mid final)
    (htexts : result.modules = setup.config.moduleTexts (sourcesAt tree paths))
    (hnew : setup.config.finishedMarkup manifest (textAt tree setup.document) = .ok result.html) :
    final =
      rewriteAll setup.arguments.backup (changesTo tree (setup.outputs paths result)) tree := by
  rw [h.changesTo_outputs htexts, rewriteAll_append, ← hmodules.rewritten]
  rw [DocumentWritten, h.documentChange?_eq hmodules hnew] at hdocument
  cases hchange : changeTo? tree setup.document result.html with
  | none =>
    rw [hchange] at hdocument
    exact hdocument
  | some change =>
    rw [hchange] at hdocument
    exact hdocument.2.2

/-- The class map of a build directory can be written after the modules and the document. -/
theorem Ready.exists_write (h : setup.Ready tree paths manifest)
    (hwritable : setup.Writable tree paths result)
    (hunmarked : setup.config.enabled = true → tree.has setup.classMap = .ok false)
    (hdirectories : tree.SameDirectories final) (bytes : List UInt8) :
    ∃ location tree', tree.locate setup.classMap = .ok (.inside (location ++ [classMapName])) ∧
      tree.get? (location ++ [classMapName]) = none ∧
        final.write setup.classMap bytes = .ok tree' ∧
          final.Stores (.inside (location ++ [classMapName])) bytes tree' := by
  obtain ⟨directory, hroot, hdirectory⟩ := FileTree.look_eq_some_iff.1 hwritable.root
  have henabled := (live_iff.1 h.live).1
  have hinside : directory.isInside := by
    -- From a directory outside no document would be found in the tree.
    by_contra houtside
    obtain ⟨location, bytes, hplace, -⟩ := h.document
    exact FileTree.not_isInside_of_join hroot houtside hplace rfl
  obtain ⟨location, rfl⟩ := Place.exists_of_isInside hinside
  obtain ⟨hlocate, hfree⟩ :=
    locate_classMap_of_missing hroot hdirectory (hunmarked henabled)
  obtain ⟨tree', hwrite, hstores⟩ :=
    exists_write_classMap hroot hdirectory (hunmarked henabled) hdirectories bytes
  exact ⟨location, tree', hlocate, hfree, hwrite, hstores⟩

/-- With its class map written, a build has delivered what it gives. -/
theorem Ready.delivers (h : setup.Ready tree paths manifest)
    (htexts : result.modules = setup.config.moduleTexts (sourcesAt tree paths))
    {location : Location} {tree' : FileTree}
    (hclassMap : tree.locate setup.classMap = .ok (.inside (location ++ [classMapName])))
    (hfree : tree.get? (location ++ [classMapName]) = none)
    (hstores : (rewriteAll setup.arguments.backup (changesTo tree (setup.outputs paths result))
      tree).Stores (.inside (location ++ [classMapName]))
        (Utf8.encode (classMapText result.session.registry)) tree') :
    setup.Delivers tree paths result tree' := by
  have hfiles : tree.FilesAt ((setup.outputs paths result).map Prod.fst) := by
    rw [map_fst_outputs htexts]
    exact h.filesAt
  have hchanges := changesAt_changesTo hfiles
  have hdirectories := (hchanges.sameDirectories setup.arguments.backup).trans hstores.directories
  have hlook : ∀ {path location bytes}, tree.locate path = .ok (.inside location) →
      tree'.get? location = some (.file bytes) → tree'.look path = .ok (some (.file bytes)) :=
    fun hplace hfile => look_file ((FileTree.locate_congr hdirectories).2 hplace) hfile
  -- The class map is the last file that is written, and it goes to a free place.
  have hkept : ∀ other, other ≠ location ++ [classMapName] → tree'.get? other =
      (rewriteAll setup.arguments.backup (changesTo tree (setup.outputs paths result)) tree).get?
        other := by
    intro other hne
    rw [hstores.get?, if_neg fun heq => hne (Place.inside.inj heq).symm]
  refine ⟨?_, ?_, ?_, ?_⟩
  · intro output houtput
    obtain ⟨other, bytes, hplace, hfile⟩ := hfiles.leads _ (List.mem_map_of_mem houtput)
    refine ⟨bytes, look_file hplace hfile, hlook hplace ?_⟩
    rw [hkept other fun heq => by simp [heq, hfree] at hfile]
    exact get?_rewriteAll_output hfiles houtput hplace hfile
  · refine hlook hclassMap ?_
    rw [hstores.get?, if_pos rfl]
  · intro hbackup change hchange hmissing
    obtain ⟨other, bytes, hplace, hfile⟩ := hchanges.leads _ (List.mem_map_of_mem hchange)
    obtain ⟨spare, hspare, hnone⟩ := Change.locate_spare_of_missing hplace hfile hmissing
    refine hlook hspare ?_
    rw [hkept spare, hbackup]
    · exact get?_rewriteAll_spare hchanges hchange hspare hnone
    · -- The class map is not named like a spare copy.
      rintro rfl
      obtain ⟨front, hlocation⟩ := FileTree.name_of_locate_spare hplace hfile hspare
      have hlast : change.path.name ++ Path.spareEnding = classMapName :=
        (List.singleton_inj.1 (List.append_inj' hlocation rfl).2).symm
      exact not_spareEnding_classMapName ⟨_, hlast⟩
  · intro other hne hother
    rw [hkept other fun heq => hne (heq ▸ hclassMap)]
    exact get?_rewriteAll_of_untouched hchanges (fun change hchange => (hother change hchange).1)
      fun hbackup hnone change hchange => (hother change hchange).2 hbackup hnone

/-- A build that has all it needs, and can write what it gives, gets to its end. -/
theorem Ready.done (h : setup.Ready tree paths manifest)
    (hwritable : setup.Writable tree paths result)
    (hunmarked : setup.config.enabled = true → tree.has setup.classMap = .ok false)
    (hrun : Build.run setup.config (sourcesAt tree paths) (textAt tree setup.document) manifest =
      .ok result)
    {outcome : Except Stop Session × Workspace} (hends : setup.Ends tree outcome) :
    outcome.1 = .ok result.session ∧ setup.Delivers tree paths result outcome.2.tree ∧
      outcome.2.printed.getLast? = some (summary false
        (changesTo tree (moduleOutputs paths result)).length
        (decide (result.html ≠ .ofText (textAt tree setup.document))) result.session) := by
  obtain ⟨htexts, hnew, hsession⟩ := Build.of_run hrun
  have hall : ∀ {paths'}, modulePaths tree setup.root = .ok paths' → paths' = paths :=
    fun hlisted => Except.ok.inj (hlisted.symm.trans h.listed)
  have hdocumentChange : ∀ {change mid}, setup.ModulesDone tree paths mid →
      setup.documentChange? mid = some change →
        changeTo? tree setup.document result.html = some change := fun hmodules hchange =>
    (h.documentChange?_eq hmodules hnew).symm.trans hchange
  -- All ends but the last are ruled out by what the build has or can write.
  cases hends with
  | unlisted hunlisted =>
    rw [h.listed] at hunlisted
    cases hunlisted
  | unspared hlisted hunspared =>
    obtain rfl := hall hlisted
    refine absurd (fun change hchange => hwritable.spared change ?_) hunspared
    rw [h.changesTo_outputs htexts]
    exact List.mem_append_left _ hchange
  | unread hmodules hunread =>
    obtain rfl := hall hmodules.listed
    exact absurd ⟨h.answer_manifestOf hmodules, h.readText_document hmodules, hnew⟩
      (hunread manifest _ _)
  | @documentUnspared paths' mid change hmodules hchange hunspared =>
    obtain rfl := hall hmodules.listed
    have hmem : (setup.document, result.html) ∈ setup.outputs paths' result :=
      List.mem_append_right _ (List.mem_singleton.2 rfl)
    exact absurd (hwritable.spared _
      (mem_changesTo.2 ⟨_, hmem, hdocumentChange hmodules hchange⟩)) hunspared
  | unencodable hmodules hchange hspared hencode =>
    obtain rfl := hall hmodules.listed
    obtain ⟨bytes, hbytes⟩ := hwritable.encodable
    have hchange := hdocumentChange hmodules hchange
    unfold changeTo? at hchange
    split at hchange
    · cases hchange
    · rw [← Option.some.inj hchange, hbytes] at hencode
      cases hencode
  | unmapped hmodules hdocument hlive hunmapped =>
    obtain ⟨location, tree', -, -, hwrite, -⟩ := h.exists_write hwritable hunmarked
      (hmodules.sameDirectories.trans hdocument.sameDirectories) _
    rw [hwrite] at hunmapped
    cases hunmapped
  | @done paths' mid final tree' manifest' old' new' hmodules hread hdocument hmap printed =>
    obtain rfl := hall hmodules.listed
    obtain rfl : manifest' = manifest :=
      Except.ok.inj (hread.manifestRead.symm.trans (h.answer_manifestOf hmodules))
    obtain rfl : old' = textAt tree setup.document :=
      Except.ok.inj (hread.documentRead.symm.trans (h.readText_document hmodules))
    obtain rfl : new' = result.html := Except.ok.inj (hread.finished.symm.trans hnew)
    have hfinal := h.rewriteAll_outputs hmodules hdocument htexts hnew
    refine ⟨congrArg _ hsession.symm, ?_, ?_⟩
    · obtain ⟨location, tree'', hclassMap, hfree, hwrite, hstores⟩ :=
        h.exists_write hwritable hunmarked
          (hmodules.sameDirectories.trans hdocument.sameDirectories)
          (Utf8.encode (classMapText result.session.registry))
      rw [ClassMapWritten, if_pos h.live, ← hsession, hwrite] at hmap
      cases hmap
      rw [hfinal] at hstores
      exact h.delivers htexts hclassMap hfree hstores
    · dsimp only
      rw [List.getLast?_concat, hsession, (live_iff.1 h.live).2, changesTo_moduleOutputs htexts]

/-- A build that has all it needs and gets to its end could write what it gives. -/
theorem Ready.writable (h : setup.Ready tree paths manifest)
    (hrun : Build.run setup.config (sourcesAt tree paths) (textAt tree setup.document) manifest =
      .ok result)
    {session : Session} {space : Workspace} (hends : setup.Ends tree (.ok session, space)) :
    setup.Writable tree paths result := by
  obtain ⟨htexts, hnew, -⟩ := Build.of_run hrun
  cases hends with
  | @done paths' mid final tree' manifest' old' new' hmodules hread hdocument hmap printed =>
    obtain rfl : paths' = paths := Except.ok.inj (hmodules.listed.symm.trans h.listed)
    have hdirectories := hmodules.sameDirectories.trans hdocument.sameDirectories
    rw [ClassMapWritten, if_pos h.live] at hmap
    rw [DocumentWritten, h.documentChange?_eq hmodules hnew] at hdocument
    refine ⟨?_, ?_, ?_⟩
    · obtain ⟨place, hclassMap, -, -⟩ := FileTree.stores_of_write hmap
      obtain ⟨directory, -, hroot, hdirectory⟩ :=
        locate_classMap ((FileTree.locate_congr hdirectories).1 hclassMap)
      rw [FileTree.look_of_locate hroot, hdirectory]
    · by_cases hsame : result.html = .ofText (textAt tree setup.document)
      · exact ⟨_, hsame ▸ Utf8.encodeWide_ofText _⟩
      · rw [changeTo?, if_neg hsame] at hdocument
        exact hdocument.2.1
    · intro change hchange
      rw [h.changesTo_outputs htexts, List.mem_append] at hchange
      rcases hchange with hchange | hchange
      · exact hmodules.spared change hchange
      · rw [Option.mem_toList] at hchange
        rw [hchange] at hdocument
        exact hdocument.1

end Setup

/-! ## What the build command gives and leaves -/

variable {argv : List Text} {environment : Environment} {setup : Setup} {manifest : Manifest}

/-- The settings that name the preview image cannot be given on the command line. -/
theorem namesPreview_of_reaches (h : setup.Reaches argv environment tree) :
    setup.config.NamesPreview := by
  obtain ⟨given, -, -, hgiven⟩ := h.arguments
  obtain ⟨root, -, hgiven⟩ := bind_eq_ok.1 hgiven
  obtain ⟨html, -, hgiven⟩ := bind_eq_ok.1 hgiven
  have harguments := Except.ok.inj hgiven
  refine namesPreview_of_readConfig ?_ ?_ h.config
  · rw [← harguments]
  · rw [← harguments]

/-- A build command that has all it needs gives a session exactly if what a build gives that has all
texts at hand can be written. Then it gives, prints and leaves what that build says. -/
theorem build_refines (hreaches : setup.Reaches argv environment tree)
    (hready : setup.Ready tree paths manifest) (printed : List Text) :
    ∃ result, Build.run setup.config (sourcesAt tree paths) (textAt tree setup.document) manifest =
        .ok result ∧
      ((∃ session, ((build argv environment).run ⟨tree, printed⟩).1 = .ok session) ↔
        setup.Writable tree paths result) ∧
      (setup.Writable tree paths result →
        ((build argv environment).run ⟨tree, printed⟩).1 = .ok (some result.session) ∧
        setup.Delivers tree paths result ((build argv environment).run ⟨tree, printed⟩).2.tree ∧
        ((build argv environment).run ⟨tree, printed⟩).2.printed.getLast? = some (summary false
          (changesTo tree (moduleOutputs paths result)).length
          (decide (result.html ≠ .ofText (textAt tree setup.document))) result.session)) := by
  obtain ⟨new, hnew⟩ := Session.exists_finishedMarkup (namesPreview_of_reaches hreaches) manifest
    (textAt tree setup.document)
  obtain ⟨result, hrun⟩ : ∃ result, Build.run setup.config (sourcesAt tree paths)
      (textAt tree setup.document) manifest = .ok result := ⟨_, by rw [Build.run_eq, hnew]⟩
  obtain ⟨⟨outcome, space⟩, hends, hcommand⟩ := ends_build hreaches printed
  -- The command ends as a build with its setup does.
  have hgives : setup.Writable tree paths result → outcome = .ok result.session ∧
      setup.Delivers tree paths result space.tree ∧
        space.printed.getLast? = some (summary false
          (changesTo tree (moduleOutputs paths result)).length
          (decide (result.html ≠ .ofText (textAt tree setup.document))) result.session) :=
    fun hwritable => hready.done hwritable hreaches.unmarked hrun hends
  refine ⟨result, hrun, ⟨?_, ?_⟩, ?_⟩
  · rintro ⟨session, hsession⟩
    rw [hcommand] at hsession
    cases outcome with
    | error stop => cases hsession
    | ok session => exact hready.writable hrun hends
  · intro hwritable
    rw [hcommand, (hgives hwritable).1]
    exact ⟨_, rfl⟩
  · intro hwritable
    obtain ⟨houtcome, hdelivers, hprinted⟩ := hgives hwritable
    rw [hcommand, houtcome]
    exact ⟨rfl, hdelivers, hprinted⟩

/-! ## A build with spare copies -/

/-- What a build of the site works with that keeps spare copies and publishes its scope. -/
def sheetSetup : Setup where
  arguments :=
    { root := Text.of "d", manifest := some (Text.of "n"),
      overrides := { injectsNaming := some (.flag true) }, backup := true }
  config := { injectsNaming := .flag true }

/-- The arguments that it is called with. -/
def sheetArguments : List Text :=
  [Text.of "--root", Text.of "d", Text.of "--manifest", Text.of "n", Text.of "--inject-runtime",
    Text.of "--backup"]

/-- The build gets to its modules. -/
theorem reaches_sheetSetup : sheetSetup.Reaches sheetArguments [] sheetSite where
  arguments := by
    refine ⟨⟨[(Text.of "--root", some (.text (Text.of "d"))),
      (Text.of "--manifest", some (.text (Text.of "n"))), (Text.of "--inject-runtime", none),
      (Text.of "--backup", none)], [], false⟩, ?_, rfl, ?_⟩ <;> decide +kernel
  document := by decide +kernel
  config := by decide +kernel
  unmarked _ := by decide +kernel

/-- The site has all that the build needs. -/
theorem ready_sheetSetup : sheetSetup.Ready sheetSite [sheetPath] [] := by
  have hsheet : sheetSite.locate sheetPath = .ok (.inside [Text.of "d", Text.of "a.css"]) := by
    decide +kernel
  have hdocument : sheetSite.locate sheetSetup.document =
      .ok (.inside [Text.of "d", Text.of "index.html"]) := by
    decide +kernel
  refine ⟨by decide +kernel, modulePaths_sheetSite, ⟨_, [], hdocument, by decide +kernel⟩, ?_,
    by decide +kernel, ?_⟩
  · intro path hpath
    rw [List.mem_singleton.1 hpath, hsheet, hdocument]
    simp only [Text.of_eq_toList]
    decide
  · intro path hpath
    have hgiven : path? sheetSetup.arguments.manifest = some ⟨[], [Text.of "n"]⟩ := by
      decide +kernel
    have hmissing : sheetSite.locate ⟨[], [Text.of "n"]⟩ = .ok (.inside [Text.of "n"]) := by
      decide +kernel
    obtain rfl := Option.some.inj (hgiven.symm.trans hpath)
    refine ⟨?_, ?_⟩
    · intro module hmodule
      rw [List.mem_singleton.1 hmodule, hsheet, hmissing]
      simp only [Text.of_eq_toList]
      decide
    · rw [Path.spareEnding_eq]
      simp only [Text.of_eq_toList]
      decide

/-- A build of the site with spare copies and a published scope. -/
theorem build_refines_sheetSite : ∃ (setup : Setup) (paths : List Path) (result : Build),
    setup.Reaches sheetArguments [] sheetSite ∧ setup.Ready sheetSite paths [] ∧
      setup.Writable sheetSite paths result ∧
        ((build sheetArguments []).run ⟨sheetSite, []⟩).1 = .ok (some result.session) ∧
          setup.Delivers sheetSite paths result
            ((build sheetArguments []).run ⟨sheetSite, []⟩).2.tree := by
  obtain ⟨result, hrun, -, hrefines⟩ := build_refines reaches_sheetSetup ready_sheetSetup []
  have hwritable : (match Build.run sheetSetup.config (sourcesAt sheetSite [sheetPath])
      (textAt sheetSite sheetSetup.document) [] with
      | .ok result => (Utf8.encodeWide result.html).isOk &&
        (changesTo sheetSite (sheetSetup.outputs [sheetPath] result)).all fun change =>
          decide (change.Spared true)
      | .error _ => false) = true := by
    decide +kernel
  rw [hrun] at hwritable
  dsimp only at hwritable
  rw [Bool.and_eq_true, List.all_eq_true] at hwritable
  have hwritable' : sheetSetup.Writable sheetSite [sheetPath] result := by
    refine ⟨by decide +kernel, ?_,
      fun change hchange => of_decide_eq_true (hwritable.2 change hchange)⟩
    cases hbytes : Utf8.encodeWide result.html with
    | ok bytes => exact ⟨bytes, rfl⟩
    | error e =>
      rw [hbytes] at hwritable
      cases hwritable.1
  have hbuild := hrefines hwritable'
  exact ⟨sheetSetup, [sheetPath], result, reaches_sheetSetup, ready_sheetSetup, hwritable',
    hbuild.1, hbuild.2.1⟩

/-! ## Where the build directory is a file -/

/-- What a build works with whose build directory is its document. -/
def documentSetup : Setup where
  arguments := { root := Text.of "index.html", html := [] }
  config := {}

/-- The arguments that it is called with. -/
def documentArguments : List Text :=
  [Text.of "--root", Text.of "index.html", Text.of "--html", []]

/-- A working directory with nothing but the document. -/
def documentSite : FileTree := FileTree.empty.addFile (.ofText (Text.of "index.html")) []

/-- The build gets to its modules, of which there are none. -/
theorem reaches_documentSetup : documentSetup.Reaches documentArguments [] documentSite where
  arguments := by
    refine ⟨⟨[(Text.of "--root", some (.text (Text.of "index.html"))),
      (Text.of "--html", some (.text []))], [], false⟩, ?_, rfl, ?_⟩ <;> decide +kernel
  document := by decide +kernel
  config := by decide +kernel
  unmarked _ := by decide +kernel

/-- The site has all that the build reads. -/
theorem ready_documentSetup : documentSetup.Ready documentSite [] [] where
  live := by decide +kernel
  listed := by decide +kernel
  document := by refine ⟨[Text.of "index.html"], [], ?_, ?_⟩ <;> decide +kernel
  documentApart path hpath := absurd hpath List.not_mem_nil
  manifest := by decide +kernel
  manifestApart path hpath := by
    have hnone : path? documentSetup.arguments.manifest = none := by decide +kernel
    rw [hnone] at hpath
    cases hpath

/-- A build whose build directory is its document has all it needs but a directory for its class
map, and fails. -/
theorem build_of_document_fails :
    documentSetup.Reaches documentArguments [] documentSite ∧
      documentSetup.Ready documentSite [] [] ∧
        ((build documentArguments []).run ⟨documentSite, []⟩).1 = .error (.failed (.file
          ⟨.notDirectory, ⟨[], [Text.of "index.html", Text.of "class_prefix_map.json"]⟩⟩)) := by
  refine ⟨reaches_documentSetup, ready_documentSetup, ?_⟩
  decide +kernel

end ClassScope.Command
