import ClassScope.Proofs.File.Listing
import ClassScope.Proofs.Text.Words

/-!
# Trees that a file system can hold

A tree may have any names but the few that lead elsewhere. A file system has no names with slashes
or null characters, and none that are too long. In a tree that it can hold, the way to what stands
below a directory may be written as one text and followed again, unless the path is too long. Main
statements:

- `Path.join_join_slash`: names that are written as a text are the parts of a path;
- `FileTree.IsStorable.locate_extend`: the path to what stands below a directory leads there;
- `FileTree.IsStorable.read_extend_eq_ok_iff`: what is read at that path.
-/

namespace ClassScope

variable {names : List Text}

/-! ## Names in a text -/

namespace Path

/-- Names without slashes that are written as a text are cut out of it again. -/
theorem splitBy_join_slash (hne : names ≠ []) (h : ∀ name ∈ names, '/' ∉ name) :
    Text.splitBy (· == '/') (Text.join ['/'] names) = names := by
  induction names with
  | nil => exact absurd rfl hne
  | cons name names ih =>
    obtain ⟨hname, hnames⟩ := List.forall_mem_cons.1 h
    have hwhole : Text.splitBy (· == '/') name = [name] :=
      Text.splitBy_of_forall fun c hc => beq_false_of_ne fun heq => hname (heq ▸ hc)
    cases names with
    | nil => exact hwhole
    | cons other names =>
      rw [Text.join, List.append_assoc, List.singleton_append, Text.splitBy_append_cons (by decide),
        hwhole, ih (List.cons_ne_nil _ _) hnames, List.singleton_append]

/-- None of the names is left out, since they are names of files. -/
theorem partsOf_join_slash (hne : names ≠ []) (hslash : ∀ name ∈ names, '/' ∉ name)
    (hnames : ∀ name ∈ names, IsFileName name) : partsOf (Text.join ['/'] names) = names := by
  rw [partsOf, splitBy_join_slash hne hslash, List.filter_eq_self]
  intro name hname
  exact decide_eq_true ⟨(hnames name hname).1, (hnames name hname).2.1⟩

/-- Names that are written as a text lead on from a path. -/
theorem join_join_slash (root : Path) (hne : names ≠ []) (hslash : ∀ name ∈ names, '/' ∉ name)
    (hnames : ∀ name ∈ names, IsFileName name) :
    root.join (Text.join ['/'] names) = root.extend names := by
  have hrelative : (ofText (Text.join ['/'] names)).root = [] := by
    obtain ⟨name, names, rfl⟩ := List.exists_cons_of_ne_nil hne
    obtain ⟨c, name, rfl⟩ := List.exists_cons_of_ne_nil (hnames name List.mem_cons_self).1
    have hc : (c == '/') = false := by
      have := hslash _ List.mem_cons_self
      simp only [List.mem_cons, not_or] at this
      exact beq_false_of_ne (Ne.symm this.1)
    -- The text starts with the first character of the first name, which is no slash.
    obtain ⟨s, hs⟩ : ∃ s, Text.join ['/'] ((c :: name) :: names) = c :: s := by
      cases names with
      | nil => exact ⟨name, rfl⟩
      | cons other names => exact ⟨_, rfl⟩
    simp [ofText, hs, hc]
  have hparts : (ofText (Text.join ['/'] names)).parts = names :=
    partsOf_join_slash hne hslash hnames
  rw [join, if_pos hrelative, hparts, extend]

end Path

/-! ## Trees -/

namespace FileTree

variable {tree : FileTree} {root : Path} {location : Location} {entry : FileEntry}

/-- A file system takes the name. -/
structure IsStorableName (name : Text) : Prop where
  /-- No slash is in it. -/
  slash : '/' ∉ name
  /-- No null character is in it. -/
  null : '\x00' ∉ name
  /-- It is not too long. -/
  length : (Utf8.encode name).length ≤ nameLimit

instance (name : Text) : Decidable (IsStorableName name) :=
  decidable_of_iff ('/' ∉ name ∧ '\x00' ∉ name ∧ (Utf8.encode name).length ≤ nameLimit)
    ⟨fun h => ⟨h.1, h.2.1, h.2.2⟩, fun h => ⟨h.slash, h.null, h.length⟩⟩

/-- A file system can hold the tree: it takes all names. -/
def IsStorable (tree : FileTree) : Prop :=
  ∀ item ∈ tree.entries, ∀ name ∈ item.1, IsStorableName name

instance (tree : FileTree) : Decidable tree.IsStorable :=
  inferInstanceAs (Decidable (∀ item ∈ tree.entries, ∀ name ∈ item.1, IsStorableName name))

/-- The system takes the path as a whole. -/
def IsShort (path : Path) : Prop := (Utf8.encode path.text).length ≤ pathLimit

instance (path : Path) : Decidable (IsShort path) :=
  inferInstanceAs (Decidable ((Utf8.encode path.text).length ≤ pathLimit))

/-- No directory below the one at a location has a path that is too long, where the path to that one
goes on to it. -/
def Searchable (tree : FileTree) (root : Path) (location : Location) : Prop :=
  ∀ names, names ≠ [] → tree.get? (location ++ names) = some .directory →
    IsShort (root.extend names)

/-- Nothing is read at a path that is too long. -/
theorem isShort_of_read {bytes : List UInt8} (h : tree.read root = .ok bytes) : IsShort root := by
  by_contra hlong
  have hlocate : ∃ fault, tree.locate root = .error fault := by
    rw [locate, if_pos (Nat.not_le.1 hlong)]
    split
    · exact ⟨_, rfl⟩
    · exact ⟨_, rfl⟩
  obtain ⟨fault, hfault⟩ := hlocate
  have hat : tree.at? root = .error fault := by rw [at?, hfault]; rfl
  rw [read, hat] at h
  cases h

/-- Names that are not too long lead to what stands below a location. -/
theorem foldlM_step_of_get? (h : tree.get? (location ++ names) = some entry)
    (hlength : ∀ name ∈ names, (Utf8.encode name).length ≤ nameLimit) :
    names.foldlM tree.step (.inside location) = .ok (.inside (location ++ names)) := by
  induction names generalizing location with
  | nil =>
    rw [List.append_nil]
    rfl
  | cons name names ih =>
    have hname := isFileName_of_get? h name (by simp)
    have hdirectory := get?_of_append (List.cons_ne_nil name names) h
    have hstep : tree.step (.inside location) name = .ok (.inside (location ++ [name])) :=
      step_eq_ok_iff.2 ⟨hdirectory, .inr ⟨hname.2.2, hlength name List.mem_cons_self, rfl⟩⟩
    have hcut : location ++ name :: names = (location ++ [name]) ++ names := by simp
    rw [hcut] at h ⊢
    rw [List.foldlM_cons, hstep, ok_bind, ih h fun other hother =>
      hlength other (List.mem_cons_of_mem _ hother)]

namespace IsStorable

theorem name_below (htree : tree.IsStorable) (h : tree.get? (location ++ names) = some entry)
    {name : Text} (hname : name ∈ names) : IsStorableName name := by
  have hne : location ++ names ≠ [] :=
    List.append_ne_nil_of_right_ne_nil _ (List.ne_nil_of_mem hname)
  exact htree _ ((get?_eq_some_iff hne).1 h) name (List.mem_append_right location hname)

/-- The names of what stands below a location are read off the path they make. -/
theorem partsOf_join_below (htree : tree.IsStorable) (hne : names ≠ [])
    (h : tree.get? (location ++ names) = some entry) :
    Path.partsOf (Text.join ['/'] names) = names :=
  Path.partsOf_join_slash hne (fun _ hname => (htree.name_below h hname).slash)
    fun name hname => isFileName_of_get? h name (List.mem_append_right location hname)

/-- The names of what stands below a location may be written as a text. -/
theorem join_join_below (htree : tree.IsStorable) (hne : names ≠ [])
    (h : tree.get? (location ++ names) = some entry) (root : Path) :
    root.join (Text.join ['/'] names) = root.extend names :=
  Path.join_join_slash root hne (fun _ hname => (htree.name_below h hname).slash)
    fun name hname => isFileName_of_get? h name (List.mem_append_right location hname)

/-- The path to what stands below a directory has no null character. -/
theorem null_not_mem_extend (htree : tree.IsStorable)
    (hroot : tree.locate root = .ok (.inside location))
    (h : tree.get? (location ++ names) = some entry) : '\x00' ∉ (root.extend names).text := by
  have hnull := (locate_eq_ok_iff.1 hroot).1
  rw [Path.null_mem_text] at hnull ⊢
  rintro (hslashes | ⟨part, hpart, hmem⟩)
  · exact hnull (.inl hslashes)
  · rcases List.mem_append.1 hpart with hpart | hpart
    · exact hnull (.inr ⟨part, hpart, hmem⟩)
    · exact (htree.name_below h hpart).null hmem

/-- The path to what stands below a directory leads there. -/
theorem locate_extend (htree : tree.IsStorable)
    (hroot : tree.locate root = .ok (.inside location))
    (h : tree.get? (location ++ names) = some entry) (hshort : IsShort (root.extend names)) :
    tree.locate (root.extend names) = .ok (.inside (location ++ names)) := by
  refine locate_eq_ok_iff.2 ⟨htree.null_not_mem_extend hroot h, hshort, ?_⟩
  have hstart : Place.start (root.extend names) = Place.start root := rfl
  rw [hstart, Path.extend, List.foldlM_append, (locate_eq_ok_iff.1 hroot).2.2, ok_bind]
  exact foldlM_step_of_get? h fun name hname => (htree.name_below h hname).length

/-- At the path to what stands below a directory it is seen, unless the path is too long. -/
theorem look_extend_eq_ok_iff (htree : tree.IsStorable)
    (hroot : tree.locate root = .ok (.inside location))
    (h : tree.get? (location ++ names) = some entry) {seen : Option FileEntry} :
    tree.look (root.extend names) = .ok seen ↔
      IsShort (root.extend names) ∧ seen = some entry := by
  by_cases hshort : IsShort (root.extend names)
  · rw [look_of_locate (htree.locate_extend hroot h hshort), standing?, h, Except.ok.injEq, eq_comm]
    exact (and_iff_right hshort).symm
  · have hlook : tree.look (root.extend names) = .error ⟨.nameTooLong, root.extend names⟩ := by
      refine look_eq_error_iff.2 ⟨locate_eq_nameTooLong_iff.2 ⟨?_, .inl ?_⟩, rfl⟩
      · exact htree.null_not_mem_extend hroot h
      · exact Nat.lt_of_not_le hshort
    rw [hlook]
    exact iff_of_false (by simp) fun hseen => hshort hseen.1

theorem exists_look_extend_iff (htree : tree.IsStorable)
    (hroot : tree.locate root = .ok (.inside location))
    (h : tree.get? (location ++ names) = some entry) :
    (∃ seen, tree.look (root.extend names) = .ok seen) ↔ IsShort (root.extend names) := by
  simp only [htree.look_extend_eq_ok_iff hroot h, exists_and_left, exists_eq, and_true]

/-- Below a directory a search shows everything, unless the path of a directory is too long. -/
theorem search_eq_ok_iff (htree : tree.IsStorable)
    (hroot : tree.locate root = .ok (.inside location)) {found : List (List Text)} :
    tree.search root = .ok found ↔
      Searchable tree root location ∧ found = (tree.below location).map Prod.fst := by
  rw [FileTree.search_eq_ok_iff hroot]
  refine and_congr_left' (forall_congr' fun names => forall₂_congr fun _ hdirectory => ?_)
  rw [← exists_look_iff, htree.exists_look_extend_iff hroot hdirectory]

/-- At the path to what stands below a directory a file is read, unless the path is too long. -/
theorem read_extend_eq_ok_iff (htree : tree.IsStorable)
    (hroot : tree.locate root = .ok (.inside location))
    (h : tree.get? (location ++ names) = some entry) {bytes : List UInt8} :
    tree.read (root.extend names) = .ok bytes ↔
      IsShort (root.extend names) ∧ entry = .file bytes := by
  by_cases hshort : IsShort (root.extend names)
  · have hat : tree.at? (root.extend names) = .ok entry := by
      rw [at?_of_locate (htree.locate_extend hroot h hshort), standing?, h]
      rfl
    rw [read, hat]
    cases entry <;> simp [hshort]
  · exact ⟨fun hread => absurd (isShort_of_read hread) hshort, fun hfile => absurd hfile.1 hshort⟩

end IsStorable

end FileTree

end ClassScope
