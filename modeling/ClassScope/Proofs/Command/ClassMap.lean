import ClassScope.Command.Build
import ClassScope.Proofs.File.Writing

/-!
# The class map

A build writes its class map into the build directory. If that is a directory, only a path that is
too long can keep it from being written. Main statements:

- `locate_classMap`: the class map is in the place that the build directory leads to;
- `exists_write_classMap`: where it is missing it can be written.
-/

namespace ClassScope

/-- Texts joined with one more at the end start with the texts joined. -/
theorem Text.join_prefix (between : Text) (words : List Text) (word : Text) :
    Text.join between words <+: Text.join between (words ++ [word]) := by
  induction words with
  | nil => exact List.nil_prefix
  | cons first words ih =>
    cases words with
    | nil => exact ⟨between ++ word, (List.append_assoc first between word).symm⟩
    | cons second words => exact (List.prefix_append_right_inj _).2 ih

namespace Command

variable {tree tree' : FileTree}

theorem ofText_classMapName : Path.ofText classMapName = ⟨[], [classMapName]⟩ := by
  rw [classMapName, Text.of_eq_toList]
  rfl

theorem isFileName_classMapName : IsFileName classMapName := by
  rw [classMapName, Text.of_eq_toList]
  decide

theorem length_classMapName_le : (Utf8.encode classMapName).length ≤ FileTree.nameLimit := by
  rw [classMapName, Text.of_eq_toList]
  decide

theorem join_classMapName (root : Path) :
    root.join classMapName = ⟨root.root, root.parts ++ [classMapName]⟩ := by
  rw [Path.join, ofText_classMapName]
  rfl

/-- The path of a build directory is not longer than that of the class map in it. -/
theorem length_text_le_classMap (root : Path) :
    (Utf8.encode root.text).length ≤ (Utf8.encode (root.join classMapName).text).length := by
  -- The empty path is written as a point, which is shorter than the name as well.
  have hprefix : Text.join ['/'] root.parts <+:
      Text.join ['/'] (root.parts ++ [classMapName]) := Text.join_prefix _ _ _
  rw [join_classMapName, Path.text, Path.text, if_neg (by simp : ¬ (_ ∧ root.parts ++ _ = []))]
  split
  · rename_i hempty
    rw [hempty.1, hempty.2, classMapName, Text.of_eq_toList]
    decide
  · obtain ⟨rest, hrest⟩ := hprefix
    simp only [← hrest, Utf8.encode, List.flatMap_append, List.length_append]
    omega

/-- A path to the class map leads under its name in the directory that the path of the build
directory leads to. -/
theorem locate_classMap {root : Path} {place : Place}
    (h : tree.locate (root.join classMapName) = .ok place) :
    ∃ directory, place = directory.child classMapName ∧ tree.locate root = .ok directory ∧
      tree.standing? directory = some .directory := by
  obtain ⟨hnull, hlength, hwalk⟩ := FileTree.locate_eq_ok_iff.1 h
  have hstart : Place.start (root.join classMapName) = Place.start root := by
    rw [join_classMapName]
    rfl
  rw [hstart, join_classMapName, List.foldlM_append] at hwalk
  obtain ⟨directory, hroot, hlast⟩ := bind_eq_ok.1 hwalk
  -- The last step goes down into a directory, since the name does not lead up.
  have hstep : tree.step directory classMapName = .ok place := by simpa using hlast
  have hnull' : '\x00' ∉ root.text := by
    rw [join_classMapName, Path.null_mem_text] at hnull
    rw [Path.null_mem_text]
    simp only [List.mem_append, not_or, not_exists, not_and] at hnull ⊢
    exact ⟨hnull.1, fun part hpart => hnull.2 part (.inl hpart)⟩
  have hlength' := Nat.le_trans (length_text_le_classMap root) hlength
  obtain ⟨hdirectory, ⟨hup, -⟩ | ⟨-, -, hchild⟩⟩ := FileTree.step_eq_ok_iff.1 hstep
  · exact absurd hup isFileName_classMapName.2.2
  · exact ⟨directory, hchild, FileTree.locate_eq_ok_iff.2 ⟨hnull', hlength', hroot⟩, hdirectory⟩

/-- A class map that is missing from a directory has a path to its place. -/
theorem locate_classMap_of_missing {root : Path} {directory : Place}
    (hroot : tree.locate root = .ok directory)
    (hdirectory : tree.standing? directory = some .directory)
    (hmissing : tree.has (root.join classMapName) = .ok false) :
    tree.locate (root.join classMapName) = .ok (directory.child classMapName) ∧
      tree.standing? (directory.child classMapName) = none := by
  have hlook : tree.look (root.join classMapName) = .ok none := by
    rw [FileTree.has] at hmissing
    cases hlook : tree.look (root.join classMapName) with
    | error e =>
      rw [hlook] at hmissing
      cases hmissing
    | ok seen =>
      rw [hlook] at hmissing
      cases seen with
      | none => rfl
      | some entry => cases hmissing
  obtain ⟨hnull, -, hwalk⟩ := FileTree.locate_eq_ok_iff.1 hroot
  -- The name is short and has no null character; only the path as a whole could be too long.
  have hnull' : '\x00' ∉ (root.join classMapName).text := by
    have hname : '\x00' ∉ classMapName := by
      rw [classMapName, Text.of_eq_toList]
      decide
    rw [join_classMapName, Path.null_mem_text]
    rw [Path.null_mem_text] at hnull
    simpa [or_and_right, exists_or, hname] using hnull
  have hlength : (Utf8.encode (root.join classMapName).text).length ≤ FileTree.pathLimit := by
    -- Asking for a path that is too long would have failed.
    by_contra hlong
    have htooLong : tree.locate (root.join classMapName) = .error .nameTooLong :=
      FileTree.locate_eq_nameTooLong_iff.2 ⟨hnull', .inl (Nat.lt_of_not_le hlong)⟩
    rw [FileTree.look_eq_error_iff.2 ⟨htooLong, rfl⟩] at hlook
    cases hlook
  have hstep : tree.step directory classMapName = .ok (directory.child classMapName) :=
    FileTree.step_eq_ok_iff.2 ⟨hdirectory,
      .inr ⟨isFileName_classMapName.2.2, length_classMapName_le, rfl⟩⟩
  have hlocate : tree.locate (root.join classMapName) = .ok (directory.child classMapName) := by
    refine FileTree.locate_eq_ok_iff.2 ⟨hnull', hlength, ?_⟩
    have hstart : Place.start (root.join classMapName) = Place.start root := by
      rw [join_classMapName]
      rfl
    rw [hstart, join_classMapName, List.foldlM_append, hwalk, ok_bind]
    simpa using hstep
  rw [FileTree.look_of_locate hlocate] at hlook
  exact ⟨hlocate, Except.ok.inj hlook⟩

/-- A class map that was missing from a directory can be written there while the directories stay.
-/
theorem exists_write_classMap {root : Path} {directory : Place}
    (hroot : tree.locate root = .ok directory)
    (hdirectory : tree.standing? directory = some .directory)
    (hmissing : tree.has (root.join classMapName) = .ok false)
    (h : tree.SameDirectories tree') (bytes : List UInt8) :
    ∃ tree'', tree'.write (root.join classMapName) bytes = .ok tree'' ∧
      tree'.Stores (directory.child classMapName) bytes tree'' := by
  obtain ⟨hlocate, hfree⟩ := locate_classMap_of_missing hroot hdirectory hmissing
  -- The directories are the same, so the path still leads there and no directory stands in the way.
  refine FileTree.write_child ((FileTree.locate_congr h).2 hlocate)
    ((h.standing? directory).2 hdirectory) isFileName_classMapName ?_ bytes
  rw [Ne, h.standing?, hfree]
  exact nofun

end Command

end ClassScope
