import ClassScope.Proofs.File.Access

/-!
# Writing files

Where a file can be written and what stands in the tree then. A file can always be written over; its
spare copy stands beside it and can be made unless its name or its path is too long. Main
statements:

- `Location.spare_inj`: two files have two spare copies;
- `FileTree.locate_spare`, `FileTree.locate_spare_inside`: where the path of a spare copy leads;
- `FileTree.write_file`, `FileTree.write_child`: files that are there, and new ones;
- `FileTree.write_outside`: outside of the working directory nothing is kept.
-/

namespace ClassScope

/-! ## Spare copies -/

namespace Path

variable {path : Path}

/-- The ending of the names of spare copies. -/
def spareEnding : Text := Text.of ".bak"

/-- The path that the old text of a file is kept under. -/
def spare (path : Path) : Path :=
  ⟨path.root, path.parts.dropLast ++ [path.name ++ spareEnding]⟩

/-- Neither the path as a whole nor its last part has too many bytes. -/
def Fits (path : Path) : Prop :=
  (Utf8.encode path.text).length ≤ FileTree.pathLimit ∧
    (Utf8.encode path.name).length ≤ FileTree.nameLimit

instance (path : Path) : Decidable path.Fits := inferInstanceAs (Decidable (_ ∧ _))

theorem addToName?_spareEnding (h : path.parts ≠ []) :
    path.addToName? (Text.of ".bak") = some path.spare := by
  rw [addToName?, List.getLast?_eq_some_getLast h, spare, name, List.getLastD_eq_getLast?,
    List.getLast?_eq_some_getLast h]
  rfl

theorem parts_eq (h : path.parts ≠ []) : path.parts.dropLast ++ [path.name] = path.parts := by
  rw [name, List.getLastD_eq_getLast?, List.getLast?_eq_some_getLast h]
  exact List.dropLast_concat_getLast h

@[simp]
theorem name_spare (path : Path) : path.spare.name = path.name ++ spareEnding := by
  simp [name, spare]

/-- A text that is added to the last of some texts is added to all of them. -/
theorem join_append_last (between : Text) (words : List Text) (word ending : Text) :
    Text.join between (words ++ [word ++ ending]) =
      Text.join between (words ++ [word]) ++ ending := by
  induction words with
  | nil => rfl
  | cons w words ih =>
    cases words with
    | nil => simp [Text.join]
    | cons v words =>
      simp only [List.cons_append, Text.join] at ih ⊢
      simp only [ih, List.append_assoc]

theorem text_spare (h : path.parts ≠ []) : path.spare.text = path.text ++ spareEnding := by
  have hspare : path.spare.parts ≠ [] := by simp [spare]
  rw [text, text, if_neg fun hnil => hspare hnil.2, if_neg fun hnil => h hnil.2]
  -- Only the last part differs, and the ending goes behind all.
  conv_rhs => rw [← parts_eq h]
  rw [spare, join_append_last, List.append_assoc]

theorem spareEnding_eq : spareEnding = ['.', 'b', 'a', 'k'] := by
  rw [spareEnding, Text.of_eq_toList]
  rfl

theorem isFileName_append_spareEnding (name : Text) : IsFileName (name ++ spareEnding) := by
  have hlength : 4 ≤ (name ++ spareEnding).length := by simp [spareEnding_eq]
  refine ⟨?_, ?_, ?_⟩ <;> intro h <;> rw [h] at hlength <;> simp [up] at hlength

end Path

/-- The location of the spare copy of a file. -/
def Location.spare (location : Location) : Location :=
  location.dropLast ++ [location.getLastD [] ++ Path.spareEnding]

/-- The location is named like that of a spare copy. -/
def Location.IsSpare (location : Location) : Prop := Path.spareEnding <:+ location.getLastD []

instance (location : Location) : Decidable location.IsSpare :=
  inferInstanceAs (Decidable (_ <:+ _))

namespace Location

theorem spare_concat (front : Location) (name : Text) :
    spare (front ++ [name]) = front ++ [name ++ Path.spareEnding] := by
  simp [spare]

theorem isSpare_spare (location : Location) : location.spare.IsSpare := by
  simp [spare, IsSpare]

/-- Two files have two spare copies. -/
theorem spare_inj {location location' : Location} (h : location ≠ []) (h' : location' ≠ [])
    (heq : location.spare = location'.spare) : location = location' := by
  obtain ⟨front, name, rfl⟩ := (List.eq_nil_or_concat location).resolve_left h
  obtain ⟨front', name', rfl⟩ := (List.eq_nil_or_concat location').resolve_left h'
  rw [List.concat_eq_append, List.concat_eq_append] at heq ⊢
  rw [spare_concat, spare_concat] at heq
  obtain ⟨hfront, hname⟩ := List.append_inj' heq rfl
  rw [hfront, List.append_cancel_right (List.singleton_inj.1 hname)]

end Location

namespace FileTree

variable {tree tree' : FileTree} {place directory : Place} {path : Path} {name : Text}
  {bytes old : List UInt8}

/-! ## Paths to files -/

/-- A path that does not lead to a directory leads through one, and its last part is the name there.
-/
theorem locate_child (hplace : tree.locate path = .ok place)
    (hplain : tree.standing? place ≠ some .directory) :
    path.parts ≠ [] ∧ ∃ directory, place = directory.child path.name ∧
      tree.standing? directory = some .directory ∧
      path.parts.dropLast.foldlM tree.step (.start path) = .ok directory := by
  have hwalk := (locate_eq_ok_iff.1 hplace).2.2
  have hparts : path.parts ≠ [] := by
    intro hnil
    -- Both places that paths start at are directories.
    rw [hnil] at hwalk
    rw [← Except.ok.inj hwalk, Place.start] at hplain
    split at hplain <;> exact hplain rfl
  rw [← Path.parts_eq hparts, List.foldlM_append] at hwalk
  obtain ⟨directory, hfront, hlast⟩ := bind_eq_ok.1 hwalk
  have hstep : tree.step directory path.name = .ok place := by simpa using hlast
  obtain ⟨hdirectory, hup | ⟨-, -, hchild⟩⟩ := step_eq_ok_iff.1 hstep
  · rw [hup.2] at hplain
    exact absurd (standing?_parent hdirectory) hplain
  · exact ⟨hparts, directory, hchild, hdirectory, hfront⟩

/-- A path to a file leads through a directory, and its last part is the name of the file there. -/
theorem locate_file (hplace : tree.locate path = .ok place)
    (hfile : tree.standing? place = some (.file bytes)) :
    path.parts ≠ [] ∧ ∃ directory, place = directory.child path.name ∧
      tree.standing? directory = some .directory ∧
      path.parts.dropLast.foldlM tree.step (.start path) = .ok directory :=
  locate_child hplace (by simp [hfile])

/-- The path of the spare copy of a file leads beside the file, unless it is too long. -/
theorem locate_spare (hplace : tree.locate path = .ok place)
    (hfile : tree.standing? place = some (.file bytes)) :
    ∃ directory, place = directory.child path.name ∧
      tree.standing? directory = some .directory ∧
      tree.locate path.spare =
        if path.spare.Fits then .ok (directory.child path.spare.name)
        else .error .nameTooLong := by
  obtain ⟨hparts, directory, hchild, hdirectory, hfront⟩ := locate_file hplace hfile
  refine ⟨directory, hchild, hdirectory, ?_⟩
  -- The ending has no null character, so the spare path has none if the path has none.
  have hnull : '\x00' ∉ path.spare.text := by
    rw [Path.text_spare hparts, Path.spareEnding_eq]
    simpa using (locate_eq_ok_iff.1 hplace).1
  -- Both paths lead through the same directory and part ways in the last step.
  have hwalk : path.spare.parts.foldlM tree.step (.start path.spare) =
      tree.step directory path.spare.name := by
    have hstart : Place.start path.spare = Place.start path := rfl
    rw [Path.name_spare, Path.spare, List.foldlM_append]
    rw [Path.spare] at hstart
    rw [hstart, hfront, ok_bind]
    simp
  have hup : path.spare.name ≠ Path.up := by
    rw [Path.name_spare]
    exact (Path.isFileName_append_spareEnding _).2.2
  split
  · rename_i hfits
    exact locate_eq_ok_iff.2 ⟨hnull, hfits.1,
      hwalk ▸ step_eq_ok_iff.2 ⟨hdirectory, .inr ⟨hup, hfits.2, rfl⟩⟩⟩
  · rename_i hfits
    refine locate_eq_nameTooLong_iff.2 ⟨hnull, ?_⟩
    rw [hwalk, step_eq_nameTooLong_iff]
    -- If not the path as a whole, its last part is too long.
    by_cases hlong : pathLimit < (Utf8.encode path.spare.text).length
    · exact .inl hlong
    · refine .inr ⟨hdirectory, hup, Nat.lt_of_not_le fun hshort => hfits ?_⟩
      exact ⟨Nat.le_of_not_lt hlong, hshort⟩

/-- The path of the spare copy of a file leads to the location of the spare copy. -/
theorem locate_spare_inside {location : Location}
    (hplace : tree.locate path = .ok (.inside location))
    (hfile : tree.get? location = some (.file bytes)) :
    tree.locate path.spare =
      if path.spare.Fits then .ok (.inside location.spare) else .error .nameTooLong := by
  obtain ⟨directory, hchild, -, hspare⟩ := locate_spare hplace hfile
  obtain ⟨front, rfl, rfl⟩ := Place.child_eq_inside_iff.1 hchild.symm
  rw [hspare, Location.spare_concat, Path.name_spare]
  rfl

/-- Files whose spare copies are in the same place are the same. -/
theorem eq_of_locate_spare {path' : Path} {place' spare : Place} {old' : List UInt8}
    (hplace : tree.locate path = .ok place) (hfile : tree.standing? place = some (.file old))
    (hplace' : tree.locate path' = .ok place')
    (hfile' : tree.standing? place' = some (.file old'))
    (hspare : tree.locate path.spare = .ok spare) (hspare' : tree.locate path'.spare = .ok spare) :
    place = place' := by
  obtain ⟨directory, rfl, -, hlocate⟩ := locate_spare hplace hfile
  obtain ⟨directory', rfl, -, hlocate'⟩ := locate_spare hplace' hfile'
  rw [hspare] at hlocate
  rw [hspare'] at hlocate'
  split at hlocate
  · split at hlocate'
    · have hchild := (Except.ok.inj hlocate).symm.trans (Except.ok.inj hlocate')
      rw [Place.child_inj, Path.name_spare, Path.name_spare, List.append_cancel_right_eq] at hchild
      rw [hchild.1, hchild.2]
    · cases hlocate'
  · cases hlocate

/-- The name of a spare copy ends as such names do. -/
theorem name_of_locate_spare {location : Location} (hplace : tree.locate path = .ok place)
    (hfile : tree.standing? place = some (.file old))
    (hspare : tree.locate path.spare = .ok (.inside location)) :
    ∃ front, location = front ++ [path.name ++ Path.spareEnding] := by
  obtain ⟨directory, -, -, hlocate⟩ := locate_spare hplace hfile
  rw [hspare] at hlocate
  split at hlocate
  · rw [Except.ok.injEq, eq_comm, Place.child_eq_inside_iff, Path.name_spare] at hlocate
    obtain ⟨front, -, hlocation⟩ := hlocate
    exact ⟨front, hlocation⟩
  · cases hlocate

/-! ## Writing -/

/-- `tree'` is `tree` with a file at a place. What is put outside is not kept. -/
structure Stores (tree : FileTree) (place : Place) (bytes : List UInt8) (tree' : FileTree) :
    Prop where
  /-- The file stands at its location, and all else is as it was. -/
  get? : ∀ location, tree'.get? location =
    if place = .inside location then some (.file bytes) else tree.get? location
  /-- The directories are as they were. -/
  directories : SameDirectories tree tree'
  /-- Nothing changes if the place is outside. -/
  outside : ¬ place.isInside → tree' = tree

/-- What stands where after a file was put at a place. -/
theorem Stores.standing? (h : Stores tree place bytes tree') (other : Place)
    (hother : other ≠ place) : tree'.standing? other = tree.standing? other := by
  cases other with
  | inside location =>
    simp only [FileTree.standing?, h.get?, if_neg (Ne.symm hother)]
  | above names => cases names <;> rfl
  | system names => rfl

/-- What is read at the end of a path that leads elsewhere. -/
theorem Stores.readText (h : Stores tree place bytes tree') {other : Place}
    (hlocate : tree.locate path = .ok other) (hother : other ≠ place) :
    tree'.readText path = tree.readText path := by
  rw [FileTree.readText, FileTree.readText, read, read,
    at?_of_locate ((locate_congr h.directories).2 hlocate), at?_of_locate hlocate,
    h.standing? other hother]

/-- A file that is put at a free place, or over a file. -/
theorem stores_set? {location : Location} (h : tree.set? location (.file bytes) = some tree')
    (hfree : tree.get? location ≠ some .directory) :
    Stores tree (.inside location) bytes tree' where
  get? other := by
    rw [get?_set? h]
    simp only [Place.inside.injEq, eq_comm]
  directories := sameDirectories_set? h hfree
  outside hinside := absurd rfl hinside

theorem stores_outside (h : ¬ place.isInside) (tree : FileTree) (bytes : List UInt8) :
    Stores tree place bytes tree where
  get? location := by
    rw [if_neg]
    rintro rfl
    exact h rfl
  directories := .refl tree
  outside _ := rfl

/-- What was written stands where the path leads. -/
theorem stores_of_write (h : tree.write path bytes = .ok tree') :
    ∃ place, tree.locate path = .ok place ∧ tree.standing? place ≠ some .directory ∧
      Stores tree place bytes tree' := by
  unfold write at h
  split at h
  · cases h
  · rename_i place hplace
    refine ⟨place, hplace, ?_⟩
    split at h
    · cases h
    · rename_i entry location hfree
      split at h
      · rename_i hset
        cases h
        exact ⟨hfree, stores_set? hset hfree⟩
      · cases h
    · rename_i hinside hfree
      cases h
      refine ⟨hfree, stores_outside (fun h => ?_) tree bytes⟩
      obtain ⟨location, rfl⟩ := Place.exists_of_isInside h
      exact hinside location rfl

/-- Where no directory stands, a file is put in the tree if it can be put there. -/
theorem write_inside {location : Location} (hplace : tree.locate path = .ok (.inside location))
    (hfree : tree.get? location ≠ some .directory)
    (h : tree.set? location (.file bytes) = some tree') : tree.write path bytes = .ok tree' := by
  cases hentry : tree.get? location with
  | none => simp [write, hplace, standing?, hentry, h]
  | some entry =>
    cases entry with
    | directory => exact absurd hentry hfree
    | file old => simp [write, hplace, standing?, hentry, h]

theorem write_outside (hplace : tree.locate path = .ok place) (houtside : ¬ place.isInside)
    (hfree : tree.standing? place ≠ some .directory) : tree.write path bytes = .ok tree := by
  unfold write
  simp only [hplace]
  split
  · exact absurd ‹_› hfree
  · exact absurd rfl houtside
  · rfl

/-- A file can be written under a name in a directory where no directory has it. -/
theorem write_child (hplace : tree.locate path = .ok (directory.child name))
    (hdirectory : tree.standing? directory = some .directory) (hname : IsFileName name)
    (hfree : tree.standing? (directory.child name) ≠ some .directory) (bytes : List UInt8) :
    ∃ tree', tree.write path bytes = .ok tree' ∧
      Stores tree (directory.child name) bytes tree' := by
  -- What was written then follows from where the path leads.
  suffices hwrite : ∃ tree', tree.write path bytes = .ok tree' by
    obtain ⟨tree', hwrite⟩ := hwrite
    obtain ⟨place, hplace', -, hstores⟩ := stores_of_write hwrite
    cases Except.ok.inj (hplace.symm.trans hplace')
    exact ⟨tree', hwrite, hstores⟩
  by_cases hinside : (directory.child name).isInside
  · obtain ⟨location, rfl⟩ := Place.exists_of_isInside (Place.isInside_child ▸ hinside)
    obtain ⟨tree', hset⟩ := set?_isSome hname hdirectory hfree (.file bytes)
    exact ⟨tree', write_inside hplace hfree hset⟩
  · exact ⟨tree, write_outside hplace hinside hfree⟩

/-- A file can be written over. -/
theorem write_file (hplace : tree.locate path = .ok place)
    (hfile : tree.standing? place = some (.file old)) (bytes : List UInt8) :
    ∃ tree', tree.write path bytes = .ok tree' ∧ Stores tree place bytes tree' := by
  obtain ⟨-, directory, rfl, hdirectory, -⟩ := locate_file hplace hfile
  have hfree : tree.standing? (directory.child path.name) ≠ some .directory := by simp [hfile]
  by_cases hinside : (directory.child path.name).isInside
  · obtain ⟨location, rfl⟩ := Place.exists_of_isInside (Place.isInside_child ▸ hinside)
    -- The file stands there already, so its name is one that files may have.
    have hname := isFileName_of_get? hfile path.name (by simp)
    exact write_child hplace hdirectory hname hfree bytes
  · exact ⟨tree, write_outside hplace hinside hfree, stores_outside hinside tree bytes⟩

/-- Writing the same bytes again changes nothing. -/
theorem write_again (h : tree.write path bytes = .ok tree') :
    tree'.write path bytes = .ok tree' := by
  obtain ⟨place, hplace, -, hstores⟩ := stores_of_write h
  have hplace' := (locate_congr hstores.directories).2 hplace
  by_cases hinside : place.isInside
  · obtain ⟨location, rfl⟩ := Place.exists_of_isInside hinside
    have hthere : tree'.get? location = some (.file bytes) := by rw [hstores.get?, if_pos rfl]
    obtain ⟨tree'', hwrite, -⟩ := write_file hplace' hthere bytes
    have hset : tree'.set? location (.file bytes) = some tree'' := by
      simp only [write, hplace', standing?, hthere] at hwrite
      split at hwrite
      · rename_i hset
        rw [hset, Except.ok.inj hwrite]
      · cases hwrite
    rw [hwrite, eq_of_set? hset hthere]
  · rw [hstores.outside hinside] at h ⊢
    exact h

/-- The spare copy of a file can be written where no directory has its name. -/
theorem write_spare (hplace : tree.locate path = .ok place)
    (hfile : tree.standing? place = some (.file old)) (hfits : path.spare.Fits)
    (hfree : tree.look path.spare ≠ .ok (some .directory)) (bytes : List UInt8) :
    ∃ spare tree', tree.locate path.spare = .ok spare ∧ tree.write path.spare bytes = .ok tree' ∧
      Stores tree spare bytes tree' := by
  obtain ⟨directory, -, hdirectory, hspare⟩ := locate_spare hplace hfile
  rw [if_pos hfits] at hspare
  rw [look_of_locate hspare] at hfree
  have hname : IsFileName path.spare.name := by
    rw [Path.name_spare]
    exact Path.isFileName_append_spareEnding _
  obtain ⟨tree', hwrite, hstores⟩ := write_child hspare hdirectory hname
    (fun h => hfree (by rw [h])) bytes
  exact ⟨_, tree', hspare, hwrite, hstores⟩

end FileTree

end ClassScope
