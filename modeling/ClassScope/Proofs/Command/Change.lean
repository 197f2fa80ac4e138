import ClassScope.Command.Job
import ClassScope.Proofs.Command.Run
import ClassScope.Proofs.File.Listing

/-!
# Changing files

A change puts a new text into a file, after a spare copy of the old one was made where that is asked
for. Several changes of different files do not disturb each other. Main statements:

- `Change.run_writeChanged`: what a job does that writes a change;
- `Change.get?_apply`: what stands where after a change;
- `get?_rewriteAll_path`, `get?_rewriteAll_spare`, `get?_rewriteAll_of_untouched`: what stands
  where after several changes.
-/

namespace ClassScope

/-- The tree after some bytes were written at the end of a path, if they can be. -/
def FileTree.afterWrite (tree : FileTree) (path : Path) (bytes : List UInt8) : FileTree :=
  match tree.write path bytes with
  | .ok tree' => tree'
  | .error _ => tree

/-- The bytes that are in a file after a wide text was written to it: none if it has no bytes. -/
def WideText.written (s : WideText) : List UInt8 :=
  match Utf8.encodeWide s with
  | .ok bytes => bytes
  | .error _ => []

@[simp]
theorem WideText.written_ofText (s : Text) : (WideText.ofText s).written = Utf8.encode s := by
  rw [written, Utf8.encodeWide_ofText]

namespace Command

variable {tree tree' : FileTree} {path : Path} {printed : List Text} {backup : Bool}

/-! ## Jobs that write -/

/-- Writing bytes changes the tree, or fails. -/
theorem run_writeBytes (path : Path) (bytes : List UInt8) (tree : FileTree) (printed : List Text) :
    (Job.writeBytes path bytes).run ⟨tree, printed⟩ =
      (((tree.write path bytes).mapError fun e => .failed (.file e)).map fun _ => (),
        ⟨tree.afterWrite path bytes, printed⟩) := by
  rw [Job.writeBytes, Job.run_bind_ok (Job.run_tree _), Job.run_bind, Job.run_orFail,
    FileTree.afterWrite]
  cases tree.write path bytes <;> rfl

/-- A text without bytes is written as the empty text, and then the job stops. -/
theorem run_writeFile (path : Path) (s : WideText) (tree : FileTree) (printed : List Text) :
    (Job.writeFile path s).run ⟨tree, printed⟩ =
      (match tree.write path s.written, Utf8.encodeWide s with
        | .error e, _ => .error (.failed (.file e))
        | .ok _, .error e => .error (.failed (.encoding e))
        | .ok _, .ok _ => .ok (),
        ⟨tree.afterWrite path s.written, printed⟩) := by
  rw [Job.writeFile, WideText.written]
  cases Utf8.encodeWide s with
  | ok bytes =>
    dsimp only
    rw [run_writeBytes]
    cases tree.write path bytes <;> rfl
  | error e =>
    dsimp only
    rw [Job.run_bind, run_writeBytes]
    cases tree.write path [] <;> rfl

/-! ## Changes -/

/-- A file whose text changes. -/
structure Change where
  /-- The path of the file. -/
  path : Path
  /-- The old text. -/
  old : Text
  /-- The new text. -/
  new : WideText

namespace Change

variable {change : Change} {bytes : List UInt8} {place : Place}

/-- The spare copy can be made if one is asked for: its path is not too long. -/
def Spared (backup : Bool) (change : Change) : Prop := backup = true → change.path.spare.Fits

instance (backup : Bool) (change : Change) : Decidable (change.Spared backup) :=
  inferInstanceAs (Decidable (_ → _))

/-- The tree with the spare copy, if one is asked for and nothing has its name. -/
def withSpare (backup : Bool) (change : Change) (tree : FileTree) : FileTree :=
  if backup = true ∧ tree.look change.path.spare = .ok none then
    tree.afterWrite change.path.spare (Utf8.encode change.old)
  else tree

/-- The tree after the change. -/
def apply (backup : Bool) (change : Change) (tree : FileTree) : FileTree :=
  (change.withSpare backup tree).afterWrite change.path change.new.written

/-- Where the path of the spare copy of a file shows nothing, it leads to a free place. -/
theorem locate_spare_of_missing {location : Location} {bytes : List UInt8}
    (hplace : tree.locate change.path = .ok (.inside location))
    (hfile : tree.get? location = some (.file bytes))
    (hmissing : tree.look change.path.spare = .ok none) :
    ∃ spare, tree.locate change.path.spare = .ok (.inside spare) ∧ tree.get? spare = none := by
  have hfile' : tree.standing? (.inside location) = some (.file bytes) := hfile
  obtain ⟨directory, hchild, -, hspare⟩ :=
    FileTree.locate_spare hplace hfile'
  split at hspare
  · obtain ⟨front, rfl, -⟩ := Place.child_eq_inside_iff.1 hchild.symm
    rw [FileTree.look_of_locate hspare] at hmissing
    exact ⟨_, hspare, Except.ok.inj hmissing⟩
  · rw [FileTree.look_eq_error_iff.2 ⟨hspare, rfl⟩] at hmissing
    cases hmissing

/-- The spare copy of a file that is there is put beside it, if at all. -/
theorem withSpare_cases (backup : Bool) (hplace : tree.locate change.path = .ok place)
    (hfile : tree.standing? place = some (.file bytes)) :
    change.withSpare backup tree = tree ∧
        ¬ (backup = true ∧ tree.look change.path.spare = .ok none) ∨
      ∃ spare, backup = true ∧ tree.locate change.path.spare = .ok spare ∧
        tree.standing? spare = none ∧ tree.write change.path.spare (Utf8.encode change.old) =
          .ok (change.withSpare backup tree) ∧
        tree.Stores spare (Utf8.encode change.old) (change.withSpare backup tree) := by
  rw [withSpare]
  split
  · rename_i hspare
    right
    -- Nothing is seen where the spare copy should be, so its path is not too long.
    have hfits : change.path.spare.Fits := by
      by_contra hfits
      obtain ⟨directory, -, -, hlocate⟩ := FileTree.locate_spare hplace hfile
      rw [if_neg hfits] at hlocate
      rw [FileTree.look_eq_error_iff.2 ⟨hlocate, rfl⟩] at hspare
      cases hspare.2
    obtain ⟨spare, tree', hlocate, hwrite, hstores⟩ :=
      FileTree.write_spare hplace hfile hfits (by simp [hspare.2]) (Utf8.encode change.old)
    -- What is seen there is nothing, so it is a free place.
    have hfree := FileTree.look_of_locate hlocate
    rw [hspare.2] at hfree
    rw [FileTree.afterWrite, hwrite]
    exact ⟨spare, hspare.1, hlocate, (Except.ok.inj hfree).symm, rfl, hstores⟩
  · rename_i hspare
    exact .inl ⟨rfl, hspare⟩

theorem sameDirectories_withSpare (backup : Bool)
    (hplace : tree.locate change.path = .ok place)
    (hfile : tree.standing? place = some (.file bytes)) :
    tree.SameDirectories (change.withSpare backup tree) := by
  rcases withSpare_cases backup hplace hfile with
    ⟨heq, -⟩ | ⟨spare, -, -, -, -, hstores⟩
  · rw [heq]
    exact .refl tree
  · exact hstores.directories

/-- What stands where after the spare copy of a file was made. -/
theorem get?_withSpare (hplace : tree.locate change.path = .ok place)
    (hfile : tree.standing? place = some (.file bytes)) (location : Location) :
    (change.withSpare backup tree).get? location =
      if backup = true ∧ tree.locate change.path.spare = .ok (.inside location) ∧
          tree.get? location = none then
        some (.file (Utf8.encode change.old))
      else tree.get? location := by
  rcases withSpare_cases backup hplace hfile with
    ⟨heq, hno⟩ | ⟨spare, hbackup, hlocate, hfree, -, hstores⟩
  · rw [heq, if_neg]
    rintro ⟨hbackup, hlocate, hfree⟩
    have hlook := FileTree.look_of_locate hlocate
    exact hno ⟨hbackup, by rw [hlook, FileTree.standing?, hfree]⟩
  · rw [hstores.get?]
    -- The copy stands where its path leads, and nowhere else.
    by_cases hspare : spare = .inside location
    · subst hspare
      have hnone : tree.get? location = none := hfree
      rw [if_pos rfl, if_pos ⟨hbackup, hlocate, hnone⟩]
    · rw [if_neg hspare, if_neg]
      rintro ⟨-, hlocate', -⟩
      exact hspare (Except.ok.inj (hlocate.symm.trans hlocate'))

/-- Making the spare copy of a file keeps the files that are there. -/
theorem standing?_withSpare (hplace : tree.locate change.path = .ok place)
    (hfile : tree.standing? place = some (.file bytes)) {other : Place} {entry : FileEntry}
    (hother : tree.standing? other = some entry) :
    (change.withSpare backup tree).standing? other = some entry := by
  by_cases hinside : other.isInside
  · obtain ⟨location, rfl⟩ := Place.exists_of_isInside hinside
    rw [FileTree.standing?] at hother ⊢
    rw [get?_withSpare hplace hfile, if_neg, hother]
    rintro ⟨-, -, hnone⟩
    rw [hnone] at hother
    cases hother
  · rw [FileTree.standing?_outside hinside, hother]

/-- After its spare copy was made, a file is written. -/
theorem stores_apply (backup : Bool) (hplace : tree.locate change.path = .ok place)
    (hfile : tree.standing? place = some (.file bytes)) :
    (change.withSpare backup tree).write change.path change.new.written =
        .ok (change.apply backup tree) ∧
      (change.withSpare backup tree).Stores place change.new.written
        (change.apply backup tree) := by
  have hdirectories := sameDirectories_withSpare backup hplace hfile
  obtain ⟨tree', hwrite, hstores⟩ := FileTree.write_file
    ((FileTree.locate_congr hdirectories).2 hplace) (standing?_withSpare hplace hfile hfile)
    change.new.written
  -- The file is still there after its copy was made, so it can be written over.
  rw [apply, FileTree.afterWrite, hwrite]
  exact ⟨rfl, hstores⟩

theorem sameDirectories_apply (backup : Bool) (hplace : tree.locate change.path = .ok place)
    (hfile : tree.standing? place = some (.file bytes)) :
    tree.SameDirectories (change.apply backup tree) :=
  (sameDirectories_withSpare backup hplace hfile).trans
    (stores_apply backup hplace hfile).2.directories

/-- What stands where after a file was changed. -/
theorem get?_apply (hplace : tree.locate change.path = .ok place)
    (hfile : tree.standing? place = some (.file bytes)) (location : Location) :
    (change.apply backup tree).get? location =
      if place = .inside location then some (.file change.new.written)
      else if backup = true ∧ tree.locate change.path.spare = .ok (.inside location) ∧
          tree.get? location = none then
        some (.file (Utf8.encode change.old))
      else tree.get? location := by
  rw [(stores_apply backup hplace hfile).2.get?, get?_withSpare hplace hfile]

theorem get?_apply_of_ne (hplace : tree.locate change.path = .ok place)
    (hfile : tree.standing? place = some (.file bytes)) {location : Location}
    (hne : place ≠ .inside location) (hthere : tree.get? location ≠ none) :
    (change.apply backup tree).get? location = tree.get? location := by
  rw [get?_apply hplace hfile, if_neg hne, if_neg fun hspare => hthere hspare.2.2]

/-- Outside nothing is changed. -/
theorem apply_outside (hplace : tree.locate change.path = .ok place)
    (hfile : tree.standing? place = some (.file bytes)) (houtside : ¬ place.isInside) :
    change.apply backup tree = tree := by
  rw [(stores_apply backup hplace hfile).2.outside houtside]
  rcases withSpare_cases backup hplace hfile with
    ⟨heq, -⟩ | ⟨spare, -, hlocate, -, -, hstores⟩
  · exact heq
  · -- The spare copy is in the same directory, which is outside too.
    obtain ⟨directory, rfl, -, hspare⟩ := FileTree.locate_spare hplace hfile
    rw [hlocate] at hspare
    split at hspare
    · cases hspare
      rw [Place.isInside_child] at houtside
      exact hstores.outside (by rwa [Place.isInside_child])
    · cases hspare

/-- Writing a change stops before anything is written where the spare copy cannot be made, and stops
afterwards where the new text has no bytes. -/
theorem run_writeChanged (change : Change) (backup : Bool)
    (hplace : tree.locate change.path = .ok place)
    (hfile : tree.standing? place = some (.file bytes)) (hnew : change.new ≠ .ofText change.old)
    (printed : List Text) :
    (Job.writeChanged change.path change.new change.old backup).run ⟨tree, printed⟩ =
      if change.Spared backup then
        (match Utf8.encodeWide change.new with
          | .ok _ => .ok true
          | .error e => .error (.failed (.encoding e)),
          ⟨change.apply backup tree, printed⟩)
      else (.error (.failed (.file ⟨.nameTooLong, change.path.spare⟩)), ⟨tree, printed⟩) := by
  -- All ways to go on end with writing the file itself.
  have hlast : (do Job.writeFile change.path change.new; return true : Job Bool).run
      ⟨change.withSpare backup tree, printed⟩ =
      (match Utf8.encodeWide change.new with
        | .ok _ => .ok true
        | .error e => .error (.failed (.encoding e)),
        ⟨change.apply backup tree, printed⟩) := by
    have hwrite := (stores_apply backup hplace hfile).1
    rw [Job.run_bind, run_writeFile, hwrite, apply]
    cases Utf8.encodeWide change.new <;> rfl
  rw [Job.writeChanged, if_neg hnew]
  dsimp only
  cases backup with
  | false =>
    have hspared : change.Spared false := nofun
    rw [if_neg Bool.false_ne_true, if_pos hspared]
    exact hlast
  | true =>
    obtain ⟨hparts, -⟩ := FileTree.locate_file hplace hfile
    obtain ⟨directory, -, -, hspare⟩ := FileTree.locate_spare hplace hfile
    rw [if_pos rfl, Path.addToName?_spareEnding hparts]
    dsimp only
    have hspared : change.Spared true ↔ change.path.spare.Fits := ⟨fun h => h rfl, fun h _ => h⟩
    -- Whether the spare path fits decides whether anything is written at all.
    rw [if_congr hspared rfl rfl]
    by_cases hfits : change.path.spare.Fits
    · rw [if_pos hfits] at hspare ⊢
      have hlook := FileTree.look_of_locate hspare
      have hhas : (Job.has change.path.spare).run ⟨tree, printed⟩ =
          (.ok (tree.standing? (directory.child change.path.spare.name)).isSome,
            ⟨tree, printed⟩) := by
        rw [Job.run_has, FileTree.has, hlook]
        rfl
      rw [Job.run_bind_ok hhas, ← hlast]
      rcases withSpare_cases true hplace hfile with
        ⟨heq, hno⟩ | ⟨spare, -, hlocate, hfree, hwrite, -⟩
      · -- Something has the name of the spare copy already.
        rw [hlook] at hno
        cases hstanding : tree.standing? (directory.child change.path.spare.name) with
        | none => exact absurd ⟨rfl, by rw [hstanding]⟩ hno
        | some entry =>
          rw [heq]
          rfl
      · cases Except.ok.inj (hspare.symm.trans hlocate)
        have hsparing : (Job.writeFile change.path.spare (.ofText change.old)).run
            ⟨tree, printed⟩ = (.ok (), ⟨change.withSpare true tree, printed⟩) := by
          rw [run_writeFile, WideText.written_ofText, FileTree.afterWrite, hwrite,
            Utf8.encodeWide_ofText]
        rw [hfree]
        exact Job.run_bind_ok hsparing
    · rw [if_neg hfits] at hspare ⊢
      have hhas : (Job.has change.path.spare).run ⟨tree, printed⟩ =
          (.error (.failed (.file ⟨.nameTooLong, change.path.spare⟩)), ⟨tree, printed⟩) := by
        rw [Job.run_has, FileTree.has, FileTree.look_eq_error_iff.2 ⟨hspare, rfl⟩]
        rfl
      rw [Job.run_bind_error hhas]

theorem exists_file_apply (hplace : tree.locate change.path = .ok place)
    (hfile : tree.standing? place = some (.file bytes)) (location : Location)
    (old : List UInt8) (hold : tree.get? location = some (.file old)) :
    ∃ bytes', (change.apply backup tree).get? location = some (.file bytes') := by
  rw [get?_apply hplace hfile]
  split
  · exact ⟨_, rfl⟩
  · rw [if_neg fun hspare => by simp [hold] at hspare]
    exact ⟨old, hold⟩

end Change

/-! ## Several changes -/

/-- The tree after some changes, one after the other. -/
def rewriteAll (backup : Bool) (changes : List Change) (tree : FileTree) : FileTree :=
  changes.foldl (fun tree change => change.apply backup tree) tree

/-- The changes are of files of the tree, each of another one. -/
def ChangesAt (tree : FileTree) (changes : List Change) : Prop :=
  tree.FilesAt (changes.map Change.path)

/-- Changes that some items may bring are of the paths of the items. -/
theorem map_path_filterMap_sublist {α : Type} (f : α → Option Change) (path : α → Path)
    (h : ∀ item change, f item = some change → change.path = path item) (items : List α) :
    ((items.filterMap f).map Change.path).Sublist (items.map path) := by
  induction items with
  | nil => exact List.Sublist.refl []
  | cons item items ih =>
    cases hitem : f item with
    | none =>
      rw [List.filterMap_cons_none hitem]
      exact ih.cons _
    | some change =>
      rw [List.filterMap_cons_some hitem, List.map_cons, List.map_cons, h item change hitem]
      exact ih.cons_cons _

variable {change : Change} {changes : List Change} {location : Location}

@[simp]
theorem rewriteAll_nil (backup : Bool) (tree : FileTree) : rewriteAll backup [] tree = tree := rfl

@[simp]
theorem rewriteAll_cons (backup : Bool) (change : Change) (changes : List Change)
    (tree : FileTree) :
    rewriteAll backup (change :: changes) tree =
      rewriteAll backup changes (change.apply backup tree) := rfl

theorem rewriteAll_append (backup : Bool) (changes others : List Change) (tree : FileTree) :
    rewriteAll backup (changes ++ others) tree =
      rewriteAll backup others (rewriteAll backup changes tree) :=
  List.foldl_append

namespace ChangesAt

theorem head (h : ChangesAt tree (change :: changes)) :
    ∃ location bytes, tree.locate change.path = .ok (.inside location) ∧
      tree.get? location = some (.file bytes) :=
  h.leads change.path List.mem_cons_self

theorem ne_head (h : ChangesAt tree (change :: changes)) {other : Change}
    (hother : other ∈ changes) : tree.locate change.path ≠ tree.locate other.path :=
  (List.pairwise_cons.1 h.apart).1 other.path (List.mem_map_of_mem hother)

/-- After the first of several changes, the others are of files of the tree too. -/
theorem tail (h : ChangesAt tree (change :: changes)) :
    ChangesAt (change.apply backup tree) changes := by
  obtain ⟨location, bytes, hplace, hfile⟩ := h.head
  exact (h.sublist (List.sublist_cons_self _ _)).congr
    (Change.sameDirectories_apply backup hplace hfile) (Change.exists_file_apply hplace hfile)

theorem sameDirectories (backup : Bool) (h : ChangesAt tree changes) :
    tree.SameDirectories (rewriteAll backup changes tree) := by
  induction changes generalizing tree with
  | nil => exact .refl tree
  | cons change changes ih =>
    obtain ⟨location, bytes, hplace, hfile⟩ := h.head
    exact (Change.sameDirectories_apply backup hplace hfile).trans (ih h.tail)

end ChangesAt

/-- What is no file that changes and no new spare copy stays as it is. -/
theorem get?_rewriteAll_of_untouched (h : ChangesAt tree changes)
    (hpath : ∀ change ∈ changes, tree.locate change.path ≠ .ok (.inside location))
    (hspare : backup = true → tree.get? location = none →
      ∀ change ∈ changes, tree.locate change.path.spare ≠ .ok (.inside location)) :
    (rewriteAll backup changes tree).get? location = tree.get? location := by
  induction changes generalizing tree with
  | nil => rfl
  | cons change changes ih =>
    obtain ⟨at', bytes, hplace, hfile⟩ := h.head
    have hdirectories := Change.sameDirectories_apply backup hplace hfile
    -- The first change does not touch the location, and its spare copy is not put there.
    have hsame : (change.apply backup tree).get? location = tree.get? location := by
      rw [Change.get?_apply hplace hfile, if_neg, if_neg]
      · rintro ⟨hbackup, hlocate, hnone⟩
        exact hspare hbackup hnone change List.mem_cons_self hlocate
      · rintro heq
        exact hpath change List.mem_cons_self (heq ▸ hplace)
    rw [rewriteAll_cons, ih h.tail, hsame]
    · intro other hother
      rw [Ne, FileTree.locate_congr hdirectories]
      exact hpath other (List.mem_cons_of_mem _ hother)
    · intro hbackup hnone other hother
      rw [hsame] at hnone
      rw [Ne, FileTree.locate_congr hdirectories]
      exact hspare hbackup hnone other (List.mem_cons_of_mem _ hother)

/-- A file that changes has its new text. -/
theorem get?_rewriteAll_path (h : ChangesAt tree changes) (hmem : change ∈ changes)
    (hplace : tree.locate change.path = .ok (.inside location)) :
    (rewriteAll backup changes tree).get? location = some (.file change.new.written) := by
  induction changes generalizing tree with
  | nil => cases hmem
  | cons first changes ih =>
    obtain ⟨at', bytes, hfirst, hfile⟩ := h.head
    have hdirectories := Change.sameDirectories_apply backup hfirst hfile
    rw [rewriteAll_cons]
    rcases List.mem_cons.1 hmem with rfl | hmem
    · -- The later changes are of other files, and a file is no new spare copy.
      have hnew : (change.apply backup tree).get? location = some (.file change.new.written) := by
        rw [Change.get?_apply hfirst hfile, if_pos (Except.ok.inj (hfirst.symm.trans hplace))]
      rw [get?_rewriteAll_of_untouched h.tail, hnew]
      · intro other hother
        rw [Ne, FileTree.locate_congr hdirectories]
        intro heq
        exact h.ne_head hother (hplace.trans heq.symm)
      · intro _ hnone
        rw [hnew] at hnone
        cases hnone
    -- The later changes are of the tree that the first one leaves, in which paths lead as before.
    · exact ih h.tail hmem ((FileTree.locate_congr hdirectories).2 hplace)

/-- A new spare copy has the old text. -/
theorem get?_rewriteAll_spare (h : ChangesAt tree changes) (hmem : change ∈ changes)
    (hspare : tree.locate change.path.spare = .ok (.inside location))
    (hnone : tree.get? location = none) :
    (rewriteAll true changes tree).get? location = some (.file (Utf8.encode change.old)) := by
  induction changes generalizing tree with
  | nil => cases hmem
  | cons first changes ih =>
    obtain ⟨at', bytes, hfirst, hfile⟩ := h.head
    have hdirectories := Change.sameDirectories_apply true hfirst hfile
    -- Nothing stands at the location yet, so no file that changes does.
    have hother : ∀ other ∈ first :: changes, tree.locate other.path ≠ .ok (.inside location) := by
      intro other hother hplace
      obtain ⟨there, bytes', hplace', hfile'⟩ := h.leads _ (List.mem_map_of_mem hother)
      cases Except.ok.inj (hplace.symm.trans hplace')
      rw [hnone] at hfile'
      cases hfile'
    have hat : Place.inside at' ≠ .inside location := fun heq =>
      hother first List.mem_cons_self (heq ▸ hfirst)
    rw [rewriteAll_cons]
    rcases List.mem_cons.1 hmem with rfl | hmem
    · have hnew : (change.apply true tree).get? location =
          some (.file (Utf8.encode change.old)) := by
        rw [Change.get?_apply hfirst hfile, if_neg hat, if_pos ⟨rfl, hspare, hnone⟩]
      rw [get?_rewriteAll_of_untouched h.tail, hnew]
      · intro other hmem
        rw [Ne, FileTree.locate_congr hdirectories]
        exact hother other (List.mem_cons_of_mem _ hmem)
      · intro _ hnone
        rw [hnew] at hnone
        cases hnone
    · -- The spare copies of two files have two names.
      have hsame : (first.apply true tree).get? location = none := by
        rw [Change.get?_apply hfirst hfile, if_neg hat, if_neg, hnone]
        rintro ⟨-, hfirstSpare, -⟩
        obtain ⟨there, bytes', hplace', hfile'⟩ := h.leads _ (List.mem_map_of_mem
          (List.mem_cons_of_mem _ hmem))
        refine h.ne_head hmem ?_
        rw [hfirst, hplace',
          FileTree.eq_of_locate_spare hfirst hfile hplace' hfile' hfirstSpare hspare]
      exact ih h.tail hmem ((FileTree.locate_congr hdirectories).2 hspare) hsame

end Command

end ClassScope
