import ClassScope.Proofs.Command.Refinement
import ClassScope.Proofs.Text.Decoding

/-!
# Spare copies put back

A build with spare copies keeps the text of every file that it writes over, not its bytes: what is
not well-formed is lost, and line ends are unified. Main statements:

- `Rewriting.backed`: what stands where after changes with spare copies;
- `Backed.restores_iff`: when the spare copies give back what was there;
- `restores_build_iff`: the build command.
-/

namespace ClassScope

namespace FileTree

variable {tree : FileTree} {location : Location}

/-- No file is named like a spare copy. -/
def SpareFree (tree : FileTree) : Prop :=
  ∀ location bytes, tree.get? location = some (.file bytes) → ¬ location.IsSpare

theorem spareFree_of_entries (h : ∀ entry ∈ tree.entries, ¬ entry.1.IsSpare) : tree.SpareFree :=
  fun _ _ hfile => h _ ((get?_eq_some_iff (ne_nil_of_file hfile)).1 hfile)

end FileTree

namespace Command

variable {tree mid final tree' : FileTree} {classMap : Path} {changes : List Change}
  {location : Location} {bytes : List UInt8}

/-! ## Changes with spare copies -/

/-- What files with spare copies have become: a file is as it was, and so is what has the name of
its spare copy, or the file was written over and its text was kept, unless something had that name.
Nothing else is new but spare copies and the class map. -/
structure Backed (classMap : Path) (tree tree' : FileTree) : Prop where
  /-- The directories are as they were. -/
  directories : tree.SameDirectories tree'
  /-- Files are as they were, or written over with a spare copy. -/
  files : ∀ location bytes, tree.get? location = some (.file bytes) →
    (tree'.get? location = some (.file bytes) ∧
      tree'.get? location.spare = tree.get? location.spare) ∨
    ((∃ new, tree'.get? location = some (.file new)) ∧
      tree'.get? location.spare =
        if tree.get? location.spare = none then some (.file (Utf8.encode (Utf8.fileText bytes)))
        else tree.get? location.spare)
  /-- What is new is a spare copy or the class map. -/
  others : ∀ location bytes, tree.get? location = none →
    tree'.get? location = some (.file bytes) →
      location.IsSpare ∨ tree.locate classMap = .ok (.inside location)

theorem Backed.refl (classMap : Path) (tree : FileTree) : Backed classMap tree tree where
  directories := .refl tree
  files _ _ hfile := .inl ⟨hfile, rfl⟩
  others location bytes hfree hfile := by
    rw [hfree] at hfile
    cases hfile

/-- The text of a file. -/
theorem textAt_file {path : Path} (hplace : tree.locate path = .ok (.inside location))
    (hfile : tree.get? location = some (.file bytes)) :
    textAt tree path = Utf8.fileText bytes := by
  rw [textAt, FileTree.readText, FileTree.read_of_look (look_file hplace hfile)]
  rfl

/-- Some changes of different files of the tree, each from the text that its file has. -/
structure Rewriting (tree : FileTree) (changes : List Change) : Prop where
  /-- The files. -/
  files : ChangesAt tree changes
  /-- The old texts. -/
  olds : ∀ change ∈ changes, change.old = textAt tree change.path
  /-- The paths of the spare copies are not too long. -/
  spared : ∀ change ∈ changes, change.path.spare.Fits

namespace Rewriting

variable {change : Change}

/-- A change is of a file, with a spare copy beside it. -/
theorem exists_file (h : Rewriting tree changes) (hchange : change ∈ changes) :
    ∃ location bytes, tree.locate change.path = .ok (.inside location) ∧
      tree.get? location = some (.file bytes) ∧ change.old = Utf8.fileText bytes ∧
        tree.locate change.path.spare = .ok (.inside location.spare) := by
  obtain ⟨location, bytes, hplace, hfile⟩ := h.files.leads _ (List.mem_map_of_mem hchange)
  refine ⟨location, bytes, hplace, hfile, ?_, ?_⟩
  · rw [h.olds change hchange, textAt_file hplace hfile]
  · rw [FileTree.locate_spare_inside hplace hfile, if_pos (h.spared change hchange)]

/-- One more change, of another file. -/
theorem concat (h : Rewriting tree changes)
    (hplace : tree.locate change.path = .ok (.inside location))
    (hfile : tree.get? location = some (.file bytes))
    (hapart : ∀ other ∈ changes, tree.locate other.path ≠ tree.locate change.path)
    (hold : change.old = textAt tree change.path) (hfits : change.path.spare.Fits) :
    Rewriting tree (changes ++ [change]) := by
  have hmem : ∀ {other}, other ∈ changes ++ [change] → other ∈ changes ∨ other = change :=
    fun hother => (List.mem_append.1 hother).imp_right List.mem_singleton.1
  refine ⟨?_, fun other hother => ?_, fun other hother => ?_⟩
  · rw [ChangesAt, List.map_append]
    refine ⟨fun path hpath => ?_, List.pairwise_append.2 ⟨h.files.apart,
      List.pairwise_singleton _ _, fun path hpath path' hpath' => ?_⟩⟩
    · rcases List.mem_append.1 hpath with hpath | hpath
      · exact h.files.leads path hpath
      · rw [List.mem_singleton.1 hpath]
        exact ⟨location, bytes, hplace, hfile⟩
    · obtain ⟨other, hother, rfl⟩ := List.mem_map.1 hpath
      rw [List.mem_singleton.1 hpath']
      exact hapart other hother
  · rcases hmem hother with hother | rfl
    · exact h.olds other hother
    · exact hold
  · rcases hmem hother with hother | rfl
    · exact h.spared other hother
    · exact hfits

/-- No change is of a spare copy. -/
theorem locate_ne_of_isSpare (h : Rewriting tree changes) (hfree : tree.SpareFree)
    (hspare : location.IsSpare) (hchange : change ∈ changes) :
    tree.locate change.path ≠ .ok (.inside location) := by
  intro hplace
  obtain ⟨other, bytes, hother, hfile, -, -⟩ := h.exists_file hchange
  cases Except.ok.inj (hplace.symm.trans hother)
  exact hfree location bytes hfile hspare

/-- What stands where after changes with spare copies. -/
theorem backed (h : Rewriting tree changes) (hfree : tree.SpareFree) (classMap : Path) :
    Backed classMap tree (rewriteAll true changes tree) where
  directories := h.files.sameDirectories true
  files location bytes hfile := by
    have hnotSpare : ∀ change ∈ changes,
        tree.locate change.path ≠ .ok (.inside location.spare) := fun change hchange =>
      h.locate_ne_of_isSpare hfree location.isSpare_spare hchange
    by_cases hchanged : ∃ change ∈ changes, tree.locate change.path = .ok (.inside location)
    · -- The file is written over. Its spare copy is made where nothing stands, and else what
      -- stands there stays, since it is no file that another change is of.
      obtain ⟨change, hchange, hplace⟩ := hchanged
      obtain ⟨other, bytes', hother, hfile', hold, hspare⟩ := h.exists_file hchange
      cases Except.ok.inj (hplace.symm.trans hother)
      cases hfile.symm.trans hfile'
      refine .inr ⟨⟨_, get?_rewriteAll_path h.files hchange hplace⟩, ?_⟩
      split
      · rename_i hnone
        rw [get?_rewriteAll_spare h.files hchange hspare hnone, hold]
      · rename_i hsome
        exact get?_rewriteAll_of_untouched h.files hnotSpare fun _ hnone => absurd hnone hsome
    · have hpath : ∀ change ∈ changes, tree.locate change.path ≠ .ok (.inside location) :=
        fun change hchange hplace => hchanged ⟨change, hchange, hplace⟩
      refine .inl ⟨?_, ?_⟩
      · rw [get?_rewriteAll_of_untouched h.files hpath, hfile]
        intro _ hnone
        rw [hfile] at hnone
        cases hnone
      · refine get?_rewriteAll_of_untouched h.files hnotSpare fun _ _ change hchange hspare => ?_
        -- The spare copy would be that of this file, which no change is of.
        obtain ⟨other, bytes', hother, hfile', -, hspare'⟩ := h.exists_file hchange
        have heq := Place.inside.inj (Except.ok.inj (hspare.symm.trans hspare'))
        have hsame := Location.spare_inj (FileTree.ne_nil_of_file hfile)
          (FileTree.ne_nil_of_file hfile') heq
        exact hpath change hchange (hsame ▸ hother)
  others location bytes hnone hfile := by
    -- A free location that is not named like a spare copy is touched by no change.
    by_contra hnew
    rw [not_or] at hnew
    rw [get?_rewriteAll_of_untouched h.files, hnone] at hfile
    · cases hfile
    · intro change hchange hplace
      obtain ⟨other, bytes', hother, hfile', -, -⟩ := h.exists_file hchange
      cases Except.ok.inj (hplace.symm.trans hother)
      cases hnone.symm.trans hfile'
    · intro _ _ change hchange hspare
      obtain ⟨other, bytes', -, -, -, hspare'⟩ := h.exists_file hchange
      cases Except.ok.inj (hspare.symm.trans hspare')
      exact hnew.1 other.isSpare_spare

end Rewriting

/-- No file is gone. -/
theorem Backed.exists_file (h : Backed classMap tree tree')
    (hfile : tree.get? location = some (.file bytes)) :
    ∃ bytes', tree'.get? location = some (.file bytes') := by
  rcases h.files location bytes hfile with ⟨hkept, -⟩ | ⟨hnew, -⟩
  · exact ⟨bytes, hkept⟩
  · exact hnew

/-- A class map that is written where nothing stands. -/
theorem Backed.write {root : Path} {place : Place} {new : List UInt8}
    (h : Backed (root.join classMapName) tree final)
    (hplace : tree.locate (root.join classMapName) = .ok place)
    (hfree : ∀ location, place = .inside location → tree.get? location = none)
    (hstores : final.Stores place new tree') : Backed (root.join classMapName) tree tree' := by
  -- A class map is no file that was there, and no spare copy.
  have hother : ∀ {location entry}, tree.get? location = some entry →
      tree'.get? location = final.get? location := by
    intro location entry hentry
    rw [hstores.get?, if_neg]
    rintro rfl
    rw [hfree location rfl] at hentry
    cases hentry
  have hspare : ∀ location : Location, tree'.get? location.spare = final.get? location.spare := by
    intro location
    rw [hstores.get?, if_neg]
    rintro rfl
    obtain ⟨directory, hchild, -, -⟩ := locate_classMap hplace
    obtain ⟨front, -, heq⟩ := Place.child_eq_inside_iff.1 hchild.symm
    have hname := location.isSpare_spare
    rw [heq, Location.IsSpare] at hname
    exact not_spareEnding_classMapName (by simpa using hname)
  refine ⟨h.directories.trans hstores.directories, fun location bytes hfile => ?_,
    fun location bytes hnone hfile => ?_⟩
  · rw [hother hfile, hspare]
    exact h.files location bytes hfile
  · rw [hstores.get?] at hfile
    split at hfile
    · rename_i heq
      exact .inr (heq ▸ hplace)
    · exact h.others location bytes hnone hfile

/-! ## Putting spare copies back -/

/-- What stands at a location after all spare copies were put back over their files, and they and
the class map were removed. -/
def restored? (classMap : Path) (tree : FileTree) (location : Location) : Option FileEntry :=
  match tree.get? location with
  | some (.file bytes) =>
    if location.IsSpare ∨ tree.locate classMap = .ok (.inside location) then none
    else
      match tree.get? location.spare with
      | some (.file old) => some (.file old)
      | _ => some (.file bytes)
  | entry => entry

/-- `tree` can be had back from what `tree'` holds. -/
structure Restores (classMap : Path) (tree tree' : FileTree) : Prop where
  /-- A file whose bytes changed has a spare copy with the bytes that it had. -/
  spares : ∀ location bytes, tree.get? location = some (.file bytes) →
    tree'.get? location ≠ some (.file bytes) → tree'.get? location.spare = some (.file bytes)
  /-- Two files have two spare copies. -/
  apart : ∀ location location' bytes bytes', tree.get? location = some (.file bytes) →
    tree.get? location' = some (.file bytes') → location.spare = location'.spare →
      location = location'
  /-- With the spare copies put back, and they and the class map removed, all is as it was. -/
  restored : ∀ location, restored? classMap tree' location = tree.get? location

/-- The file at a location was written over: its bytes changed, or it got a spare copy. -/
def Rewritten (tree tree' : FileTree) (location : Location) : Prop :=
  tree'.get? location ≠ tree.get? location ∨
    tree'.get? location.spare ≠ tree.get? location.spare

instance (tree tree' : FileTree) (location : Location) :
    Decidable (Rewritten tree tree' location) :=
  inferInstanceAs (Decidable (_ ∨ _))

/-- What has the name of a spare copy was no file. -/
theorem get?_spare_ne_file (hfree : tree.SpareFree) (location : Location) :
    tree.get? location.spare ≠ some (.file bytes) := fun h =>
  hfree location.spare bytes h location.isSpare_spare

namespace Backed

/-- What a file becomes with its spare copy put back. -/
theorem restored?_file (h : Backed classMap tree tree') (hfree : tree.SpareFree)
    (hclassMap : tree.locate classMap ≠ .ok (.inside location))
    (hfile : tree.get? location = some (.file bytes)) :
    restored? classMap tree' location =
      if Rewritten tree tree' location ∧ tree.get? location.spare = none then
        some (.file (Utf8.encode (Utf8.fileText bytes)))
      else tree'.get? location := by
  have hlocate : ¬ (location.IsSpare ∨ tree'.locate classMap = .ok (.inside location)) := by
    rw [FileTree.locate_congr h.directories, not_or]
    exact ⟨hfree location bytes hfile, hclassMap⟩
  rcases h.files location bytes hfile with ⟨hkept, hspare⟩ | ⟨⟨new, hnew⟩, hspare⟩
  · -- A file that was not written over has no spare copy to put back.
    have hnot : ¬ Rewritten tree tree' location := by
      simp [Rewritten, hkept, hfile, hspare]
    rw [if_neg fun h => hnot h.1, restored?, hkept]
    dsimp only
    rw [if_neg hlocate, hspare]
    split
    · exact absurd ‹_› (get?_spare_ne_file hfree location)
    · rfl
  · -- What is put back is the text that was kept, if there was room for it.
    rw [restored?, hnew]
    dsimp only
    rw [if_neg hlocate]
    by_cases hnone : tree.get? location.spare = none
    · rw [if_pos hnone] at hspare
      have hrewritten : Rewritten tree tree' location := .inr (by simp [hspare, hnone])
      rw [if_pos ⟨hrewritten, hnone⟩, hspare]
    · rw [if_neg hnone] at hspare
      rw [if_neg fun h => hnone h.2, hspare]
      split
      · exact absurd ‹_› (get?_spare_ne_file hfree location)
      · rfl

/-- A file in the place of the class map is removed. -/
theorem restored?_classMap (h : Backed classMap tree tree')
    (hclassMap : tree.locate classMap = .ok (.inside location))
    (hfile : tree'.get? location = some (.file bytes)) :
    restored? classMap tree' location = none := by
  rw [restored?, hfile]
  exact if_pos (.inr ((FileTree.locate_congr h.directories).2 hclassMap))

/-- A free location is free again. -/
theorem restored?_free (h : Backed classMap tree tree') (hnone : tree.get? location = none) :
    restored? classMap tree' location = none := by
  cases hentry : tree'.get? location with
  | none => rw [restored?, hentry]
  | some entry =>
    cases entry with
    | directory =>
      rw [(h.directories location).1 hentry] at hnone
      cases hnone
    | file bytes =>
      rcases h.others location bytes hnone hentry with hspare | hclassMap
      · rw [restored?, hentry]
        exact if_pos (.inl hspare)
      · exact h.restored?_classMap hclassMap hentry

/-- A file that was written over, with room for its spare copy, has its text kept there. -/
theorem get?_spare (h : Backed classMap tree tree')
    (hfile : tree.get? location = some (.file bytes)) (hrewritten : Rewritten tree tree' location)
    (hnone : tree.get? location.spare = none) :
    tree'.get? location.spare = some (.file (Utf8.encode (Utf8.fileText bytes))) := by
  rcases h.files location bytes hfile with ⟨hkept, hspare⟩ | ⟨-, hspare⟩
  · rcases hrewritten with hnew | hnew
    · exact absurd (hkept.trans hfile.symm) hnew
    · exact absurd hspare hnew
  · rw [hspare, if_pos hnone]

/-- Without room for a spare copy, the bytes show that a file was written over. -/
theorem get?_ne_of_rewritten (h : Backed classMap tree tree')
    (hfile : tree.get? location = some (.file bytes)) (hrewritten : Rewritten tree tree' location)
    (hroom : tree.get? location.spare ≠ none) : tree'.get? location ≠ some (.file bytes) := by
  have hspare : tree'.get? location.spare = tree.get? location.spare := by
    rcases h.files location bytes hfile with ⟨-, hspare⟩ | ⟨-, hspare⟩
    · exact hspare
    · rw [hspare, if_neg hroom]
  rw [← hfile]
  exact hrewritten.resolve_right fun hnew => hnew hspare

/-- With its spare copy put back, a file is as it was if it was not written over, or there was room
for its spare copy and its bytes were those of a text without carriage returns. -/
theorem restored?_eq_file_iff (h : Backed classMap tree tree') (hfree : tree.SpareFree)
    (hclassMap : tree.locate classMap ≠ .ok (.inside location))
    (hfile : tree.get? location = some (.file bytes)) :
    restored? classMap tree' location = some (.file bytes) ↔
      (Rewritten tree tree' location →
        tree.get? location.spare = none ∧ ∃ s, '\r' ∉ s ∧ Utf8.encode s = bytes) := by
  rw [h.restored?_file hfree hclassMap hfile]
  by_cases hrewritten : Rewritten tree tree' location
  · by_cases hroom : tree.get? location.spare = none
    · rw [if_pos ⟨hrewritten, hroom⟩]
      simp only [hrewritten, hroom, Option.some.injEq, FileEntry.file.injEq,
        Utf8.encode_fileText_eq_iff, true_and, forall_const]
    · rw [if_neg fun h => hroom h.2]
      exact iff_of_false (h.get?_ne_of_rewritten hfile hrewritten hroom)
        fun hplain => hroom (hplain hrewritten).1
  · have hkept : tree'.get? location = some (.file bytes) := by
      rw [← hfile]
      exact not_not.1 (not_or.1 hrewritten).1
    rw [if_neg fun h => hrewritten h.1]
    exact iff_of_true hkept fun h => absurd h hrewritten

/-- The spare copies give back what was there if no class map was there before, and every file that
was written over had room for its spare copy and the bytes of a text without carriage returns. -/
theorem restores_iff (h : Backed classMap tree tree') (hfree : tree.SpareFree) :
    Restores classMap tree tree' ↔
      (∀ location bytes, tree.locate classMap = .ok (.inside location) →
        tree.get? location ≠ some (.file bytes)) ∧
      ∀ location bytes, tree.get? location = some (.file bytes) →
        Rewritten tree tree' location →
          tree.get? location.spare = none ∧ ∃ s, '\r' ∉ s ∧ Utf8.encode s = bytes := by
  constructor
  · intro hrestores
    have hclassMap : ∀ location bytes, tree.locate classMap = .ok (.inside location) →
        tree.get? location ≠ some (.file bytes) := by
      intro location bytes hlocate hfile
      have hrestored := hrestores.restored location
      obtain ⟨bytes', hfile'⟩ := h.exists_file hfile
      rw [h.restored?_classMap hlocate hfile', hfile] at hrestored
      cases hrestored
    refine ⟨hclassMap, fun location bytes hfile => ?_⟩
    refine (h.restored?_eq_file_iff hfree (fun hlocate => hclassMap location bytes hlocate hfile)
      hfile).1 ?_
    rw [hrestores.restored, hfile]
  · rintro ⟨hclassMap, hplain⟩
    refine ⟨fun location bytes hfile hchanged => ?_, fun location location' bytes bytes' hfile
      hfile' => ?_, fun location => ?_⟩
    · have hrewritten : Rewritten tree tree' location := .inl (hfile ▸ hchanged)
      obtain ⟨hroom, htext⟩ := hplain location bytes hfile hrewritten
      rw [h.get?_spare hfile hrewritten hroom, Utf8.encode_fileText_eq_iff.2 htext]
    · exact Location.spare_inj (FileTree.ne_nil_of_file hfile) (FileTree.ne_nil_of_file hfile')
    · cases hentry : tree.get? location with
      | none => exact h.restored?_free hentry
      | some entry =>
        cases entry with
        | directory => rw [restored?, (h.directories location).2 hentry]
        | file bytes =>
          exact (h.restored?_eq_file_iff hfree
            (fun hlocate => hclassMap location bytes hlocate hentry) hentry).2
            (hplain location bytes hentry)

end Backed

/-! ## Builds with spare copies -/

namespace Setup

variable {setup : Setup} {paths : List Path}

/-- The modules are changed from the texts that they have. -/
theorem ModulesDone.rewriting (h : setup.ModulesDone tree paths mid)
    (hbackup : setup.arguments.backup = true) :
    Rewriting tree (setup.moduleChanges tree paths) where
  files := changesAt_moduleChanges h.listed
  olds change hchange := by
    obtain ⟨heq, -⟩ := moduleChange?_eq_some (of_mem_moduleChanges hchange).2
    rw [heq]
  spared change hchange := h.spared change hchange hbackup

/-- The modules and the document are written as changes of different files, each from the text that
its file has. -/
theorem exists_rewriting (hmodules : setup.ModulesDone tree paths mid)
    (hbackup : setup.arguments.backup = true) (hhas : tree.has setup.document = .ok true)
    (hapart : ∀ path ∈ paths, tree.locate path ≠ tree.locate setup.document)
    (hdocument : setup.DocumentWritten mid final) :
    ∃ changes, Rewriting tree changes ∧ final = rewriteAll true changes tree := by
  have hrewriting := hmodules.rewriting hbackup
  have hmid := hmodules.rewritten
  rw [hbackup] at hmid
  unfold DocumentWritten at hdocument
  split at hdocument
  · exact ⟨_, hrewriting, hdocument.trans hmid⟩
  · rename_i change hchange
    obtain ⟨hspared, -, hfinal⟩ := hdocument
    obtain ⟨place, bytes, hplace, hfile⟩ := exists_file_of_documentChange? hchange
    obtain ⟨manifest, old, new, hread, rfl, -⟩ := documentChange?_eq_some hchange
    rw [hbackup] at hspared hfinal
    by_cases hinside : place.isInside
    · obtain ⟨location, rfl⟩ := Place.exists_of_isInside hinside
      have hold := hread.documentRead
      rw [hmodules.readText_document hapart hhas] at hold
      have hlook := hmodules.look_document hapart hhas
      have hplace' := (FileTree.locate_congr hmodules.sameDirectories).1 hplace
      -- The document was there before, so no module left it.
      rw [look_file hplace hfile, FileTree.look_of_locate hplace', Except.ok.injEq] at hlook
      have hapart' : ∀ change ∈ setup.moduleChanges tree paths,
          tree.locate change.path ≠ tree.locate setup.document :=
        fun change hchange => hapart change.path (of_mem_moduleChanges hchange).1
      have htext : old = textAt tree setup.document := by rw [textAt, hold]
      refine ⟨_, hrewriting.concat hplace' hlook.symm hapart' htext (hspared rfl), ?_⟩
      rw [rewriteAll_append, ← hmid, hfinal]
      rfl
    · -- What is written outside is not kept.
      rw [Change.apply_outside hplace hfile hinside] at hfinal
      exact ⟨_, hrewriting, hfinal.trans hmid⟩

/-- What a build with spare copies leaves that gives a session. -/
theorem backed_of_ends {session : Session} {space : Workspace}
    (hends : setup.Ends tree (.ok session, space)) (hfree : tree.SpareFree)
    (hbackup : setup.arguments.backup = true) (hhas : tree.has setup.document = .ok true)
    (hapart : ∀ paths, modulePaths tree setup.root = .ok paths →
      ∀ path ∈ paths, tree.locate path ≠ tree.locate setup.document)
    (hunmarked : setup.config.enabled = true → tree.has setup.classMap = .ok false) :
    Backed setup.classMap tree space.tree := by
  cases hends with
  | @done paths mid final tree' manifest old new hmodules hread hdocument hmap =>
    obtain ⟨changes, hrewriting, rfl⟩ := exists_rewriting hmodules hbackup hhas
      (hapart paths hmodules.listed) hdocument
    have hbacked := hrewriting.backed hfree setup.classMap
    unfold ClassMapWritten at hmap
    split at hmap
    · rename_i hlive
      obtain ⟨place, hplace, -, hstores⟩ := FileTree.stores_of_write hmap
      rw [FileTree.locate_congr hbacked.directories] at hplace
      -- No class map was there before.
      have hmissing := hunmarked (live_iff.1 hlive).1
      exact hbacked.write hplace (fun location heq =>
        FileTree.get?_eq_none_of_has hmissing (heq ▸ hplace)) hstores
    · rw [hmap]
      exact hbacked

end Setup

variable {argv : List Text} {environment : Environment} {setup : Setup}

/-- What a build command with spare copies leaves that does not stop. -/
theorem backed_build {result : Option Session} {printed : List Text}
    (harguments : argumentsFrom argv = .ok setup.arguments)
    (hbackup : setup.arguments.backup = true) (hfree : tree.SpareFree)
    (hapart : ∀ paths, modulePaths tree setup.root = .ok paths →
      ∀ path ∈ paths, tree.locate path ≠ tree.locate setup.document)
    (hresult : ((build argv environment).run ⟨tree, printed⟩).1 = .ok result) :
    Backed setup.classMap tree ((build argv environment).run ⟨tree, printed⟩).2.tree := by
  by_cases hreaches : ∃ other : Setup, other.Reaches argv environment tree
  · obtain ⟨other, hreaches⟩ := hreaches
    obtain ⟨⟨outcome, space⟩, hends, hrun⟩ := ends_build hreaches printed
    have hsame : other.arguments = setup.arguments :=
      Except.ok.inj ((reaches_iff.1 hreaches).1.symm.trans harguments)
    obtain ⟨arguments, config⟩ := other
    obtain rfl : arguments = setup.arguments := hsame
    rw [hrun] at hresult ⊢
    cases outcome with
    | error stop => cases hresult
    | ok session =>
      -- The configuration does not matter for where the class map is.
      have hbacked := Setup.backed_of_ends hends hfree hbackup hreaches.document hapart
        hreaches.unmarked
      exact hbacked
  · rw [(idle_build_of_not_reaches (not_exists.1 hreaches) printed).tree]
    exact .refl _ _

/-- A build command with spare copies that does not stop leaves what gives back the files, in a tree
without files that are named like spare copies, if there was no class map, and every file that was
written over had room for its spare copy and the bytes of a text without carriage returns. -/
theorem restores_build_iff {result : Option Session} {printed : List Text}
    (harguments : argumentsFrom argv = .ok setup.arguments)
    (hbackup : setup.arguments.backup = true) (hfree : tree.SpareFree)
    (hapart : ∀ paths, modulePaths tree setup.root = .ok paths →
      ∀ path ∈ paths, tree.locate path ≠ tree.locate setup.document)
    (hresult : ((build argv environment).run ⟨tree, printed⟩).1 = .ok result) :
    let tree' := ((build argv environment).run ⟨tree, printed⟩).2.tree
    Restores setup.classMap tree tree' ↔
      (∀ location bytes, tree.locate setup.classMap = .ok (.inside location) →
        tree.get? location ≠ some (.file bytes)) ∧
      ∀ location bytes, tree.get? location = some (.file bytes) →
        Rewritten tree tree' location →
          tree.get? location.spare = none ∧ ∃ s, '\r' ∉ s ∧ Utf8.encode s = bytes :=
  (backed_build harguments hbackup hfree hapart hresult).restores_iff hfree

/-! ## A stylesheet with a carriage return -/

/-- What a build of the site with spare copies works with. -/
def lineEndSetup : Setup where
  arguments := { root := Text.of "d", backup := true }
  config := {}

/-- The arguments that it is called with. -/
def lineEndArguments : List Text := [Text.of "--root", Text.of "d", Text.of "--backup"]

/-- The bytes of the stylesheet. -/
def lineEndSheet : List UInt8 := Utf8.encode (Text.of ".a\x7b\x7d\x0d\n")

/-- A site with an empty document and a stylesheet whose line ends with a carriage return and a line
feed. -/
def lineEndSite : FileTree :=
  (FileTree.empty.addFile (.ofText (Text.of "d/a.css")) lineEndSheet).addFile
    (.ofText (Text.of "d/index.html")) []

/-- The stylesheet is the only module of the site. -/
theorem modulePaths_lineEndSite : modulePaths lineEndSite lineEndSetup.root =
    .ok [⟨[], [Text.of "d", Text.of "a.css"]⟩] := by
  have hroot : lineEndSite.locate lineEndSetup.root = .ok (.inside [['d']]) := by decide +kernel
  have hbelow : (lineEndSite.below [['d']]).map Prod.fst =
      [[Text.of "a.css"], [Text.of "index.html"]] :=
    FileTree.names_below_eq (by decide +kernel) (by decide +kernel) (by decide +kernel)
  rw [modulePaths_of_below hroot hbelow]
  decide +kernel

/-- The spare copy of the stylesheet holds another line end. -/
theorem spare_lineEndSite :
    let space := ((build lineEndArguments []).run ⟨lineEndSite, []⟩)
    let sheet : Location := [Text.of "d", Text.of "a.css"]
    space.1.isOk = true ∧ lineEndSite.get? sheet = some (.file lineEndSheet) ∧
      space.2.tree.get? sheet = some (.file (Utf8.encode (Text.of ".dwp-a\x7b\x7d\n"))) ∧
      space.2.tree.get? sheet.spare = some (.file (Utf8.encode (Text.of ".a\x7b\x7d\n"))) := by
  have hreaches : lineEndSetup.Reaches lineEndArguments [] lineEndSite :=
    reaches_iff.2 ⟨by decide +kernel, by decide +kernel⟩
  dsimp only
  rw [run_build_of_listed hreaches modulePaths_lineEndSite]
  decide +kernel

/-- The site has no spare copies yet. -/
theorem spareFree_lineEndSite : lineEndSite.SpareFree := by
  have hentries : lineEndSite.entries.map Prod.fst =
      [[Text.of "d"], [Text.of "d", Text.of "a.css"], [Text.of "d", Text.of "index.html"]] := by
    decide +kernel
  refine FileTree.spareFree_of_entries fun entry hentry => ?_
  have hlocation := List.mem_map_of_mem (f := Prod.fst) hentry
  rw [hentries] at hlocation
  revert hlocation
  generalize entry.1 = location
  revert location
  simp only [Location.IsSpare, Path.spareEnding_eq, Text.of_eq_toList]
  decide

/-- The document is no module. -/
theorem apart_lineEndSite : ∀ paths, modulePaths lineEndSite lineEndSetup.root = .ok paths →
    ∀ path ∈ paths, lineEndSite.locate path ≠ lineEndSite.locate lineEndSetup.document := by
  have hsheet : lineEndSite.locate ⟨[], [Text.of "d", Text.of "a.css"]⟩ =
      .ok (.inside [Text.of "d", Text.of "a.css"]) := by
    decide +kernel
  have hdocument : lineEndSite.locate lineEndSetup.document =
      .ok (.inside [Text.of "d", Text.of "index.html"]) := by
    decide +kernel
  intro paths hpaths path hpath
  cases Except.ok.inj (modulePaths_lineEndSite.symm.trans hpaths)
  rw [List.mem_singleton.1 hpath, hsheet, hdocument]
  simp only [Text.of_eq_toList]
  decide

/-- So a build with spare copies does not leave what gives back the stylesheet. -/
theorem not_restores_lineEndSite :
    argumentsFrom lineEndArguments = .ok lineEndSetup.arguments ∧
      lineEndSetup.arguments.backup = true ∧ lineEndSite.SpareFree ∧
      (∃ result, ((build lineEndArguments []).run ⟨lineEndSite, []⟩).1 = .ok result) ∧
      ¬ Restores lineEndSetup.classMap lineEndSite
        ((build lineEndArguments []).run ⟨lineEndSite, []⟩).2.tree := by
  have harguments : argumentsFrom lineEndArguments = .ok lineEndSetup.arguments := by decide +kernel
  obtain ⟨hok, hbefore, hafter, -⟩ := spare_lineEndSite
  cases hresult : ((build lineEndArguments []).run ⟨lineEndSite, []⟩).1 with
  | error stop =>
    rw [hresult] at hok
    cases hok
  | ok result =>
    refine ⟨harguments, rfl, spareFree_lineEndSite, ⟨result, rfl⟩, fun hrestores => ?_⟩
    have hplain := ((restores_build_iff harguments rfl spareFree_lineEndSite apart_lineEndSite
      hresult).1 hrestores).2
    have hrewritten : Rewritten lineEndSite
        ((build lineEndArguments []).run ⟨lineEndSite, []⟩).2.tree
        [Text.of "d", Text.of "a.css"] := by
      refine .inl ?_
      rw [hafter, hbefore, lineEndSheet]
      simp only [Text.of_eq_toList]
      decide
    obtain ⟨-, s, hs, hbytes⟩ := hplain _ _ hbefore hrewritten
    -- The bytes are those of one text only, and that has a carriage return.
    have hread := congrArg Utf8.decodeLenient hbytes
    rw [lineEndSheet, Utf8.decodeLenient_encode, Utf8.decodeLenient_encode] at hread
    rw [hread, Text.of_eq_toList] at hs
    exact hs (by decide)

end Command

end ClassScope
