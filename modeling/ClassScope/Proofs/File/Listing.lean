import ClassScope.Proofs.File.Writing
import Mathlib.Data.List.Pairwise

/-!
# What listings show

A listing shows everything below a directory once, a search also opens all directories there, and
the files among some paths are those at whose ends files stand. Main statements:

- `FileTree.mem_below_iff`, `FileTree.pairwise_precede_below`: what is listed, and in which order;
- `FileTree.names_below_eq`: names in order that leave nothing out are those of the listing;
- `FileTree.search_eq_ok_iff`: what a search shows, and when it does;
- `FileTree.filesAt_filesAmong`: paths from a listing that lead to files, each to another one.
-/

namespace ClassScope.FileTree

variable {tree tree' : FileTree} {location other : Location} {names : List Text}
  {entry : FileEntry}

theorem below?_eq_some_iff : below? location other = some names ↔ other = location ++ names := by
  induction location generalizing other with
  | nil => simp [below?]
  | cons name location ih =>
    cases other with
    | nil => simp [below?]
    | cons name' other =>
      by_cases h : name = name'
      · simp [below?, h, ih]
      · simp [below?, h, Ne.symm h]

/-- The names that lead to an entry of the tree from a location, if the entry is below it. -/
theorem eq_of_belowEntry {item : Location × FileEntry}
    (h : (match below? location item.1 with
      | some (name :: names) => some (name :: names, item.2)
      | _ => none) = some (names, entry)) :
    names ≠ [] ∧ item = (location ++ names, entry) := by
  obtain ⟨other, entry'⟩ := item
  split at h
  · rename_i name rest hbelow
    cases h
    have hother : other = location ++ name :: rest := below?_eq_some_iff.1 hbelow
    exact ⟨List.cons_ne_nil _ _, by rw [hother]⟩
  · cases h

/-- What is listed stands below the location. -/
theorem mem_below (h : (names, entry) ∈ tree.below location) :
    names ≠ [] ∧ tree.get? (location ++ names) = some entry := by
  -- Sorting does not matter to what is listed.
  rw [below, (Text.sortByParts_perm _ _).mem_iff, List.mem_filterMap] at h
  obtain ⟨item, hitem, hbelow⟩ := h
  obtain ⟨hnames, rfl⟩ := eq_of_belowEntry hbelow
  exact ⟨hnames, (get?_eq_some_iff (by simp [hnames])).2 hitem⟩

/-- Nothing is listed twice. -/
theorem pairwise_below (tree : FileTree) (location : Location) :
    (tree.below location).Pairwise fun item item' => item.1 ≠ item'.1 := by
  rw [below, (Text.sortByParts_perm _ _).pairwise_iff Ne.symm]
  have hentries : tree.entries.Pairwise fun item item' => item.1 ≠ item'.1 :=
    List.pairwise_map.1 tree.nodup
  -- A tree holds no location twice, and cutting off the same front keeps them apart.
  refine hentries.filterMap _ ?_
  intro item item' hne listed hlisted listed' hlisted' heq
  -- Entries that are reached by the same names have the same location.
  have hitem := (eq_of_belowEntry hlisted).2
  have hitem' := (eq_of_belowEntry hlisted').2
  rw [hitem, hitem', heq] at hne
  exact hne rfl

/-- Everything that stands below the location is listed. -/
theorem mem_below_iff :
    (names, entry) ∈ tree.below location ↔
      names ≠ [] ∧ tree.get? (location ++ names) = some entry := by
  refine ⟨mem_below, fun ⟨hnames, hentry⟩ => ?_⟩
  obtain ⟨name, names, rfl⟩ := List.exists_cons_of_ne_nil hnames
  rw [below, (Text.sortByParts_perm _ _).mem_iff, List.mem_filterMap]
  refine ⟨(location ++ name :: names, entry), (get?_eq_some_iff (by simp)).1 hentry, ?_⟩
  simp [below?_eq_some_iff.2 rfl]

/-- Each item of a listing comes before the later ones in the order of the names. -/
theorem pairwise_precede_below (tree : FileTree) (location : Location) :
    (tree.below location).Pairwise fun item item' =>
      Text.partsPrecede item.1 item'.1 = true :=
  Text.strict_partsPrecede.pairwise_of_ne (Text.pairwise_sortByParts _ _)
    (pairwise_below tree location)

/-- The names of a listing are those that lead to something below the location. -/
theorem mem_names_below_iff :
    names ∈ (tree.below location).map Prod.fst ↔
      names ≠ [] ∧ ∃ entry, tree.get? (location ++ names) = some entry := by
  rw [List.mem_map]
  constructor
  · rintro ⟨⟨names, entry⟩, hitem, rfl⟩
    obtain ⟨hnames, hentry⟩ := mem_below_iff.1 hitem
    exact ⟨hnames, entry, hentry⟩
  · rintro ⟨hnames, entry, hentry⟩
    exact ⟨(names, entry), mem_below_iff.2 ⟨hnames, hentry⟩, rfl⟩

/-- The names of a listing are in order. -/
theorem pairwise_names_below (tree : FileTree) (location : Location) :
    ((tree.below location).map Prod.fst).Pairwise fun names names' =>
      Text.partsPrecede names names' = true :=
  List.pairwise_map.2 (pairwise_precede_below tree location)

/-- Names in order that lead to something below the location are those of the listing if none is
left out. -/
theorem names_below_eq {listed : List (List Text)}
    (hstands : ∀ names ∈ listed,
      names ≠ [] ∧ (tree.get? (location ++ names)).isSome = true)
    (hall : ∀ item ∈ tree.entries, ∀ names ∈ below? location item.1,
      names = [] ∨ names ∈ listed)
    (hsorted : listed.Pairwise fun names names' => Text.partsPrecede names names' = true) :
    (tree.below location).map Prod.fst = listed := by
  refine Text.strict_partsPrecede.eq_of_pairwise (pairwise_names_below tree location) hsorted
    fun names => mem_names_below_iff.trans ⟨?_, fun h => ?_⟩
  · rintro ⟨hnames, entry, hentry⟩
    have hmem := (get?_eq_some_iff (by simp [hnames])).1 hentry
    exact (hall _ hmem names (below?_eq_some_iff.2 rfl)).resolve_left hnames
  · rw [← Option.isSome_iff_exists]
    exact hstands names h

/-- Of the listings of two trees the same is left when only names are kept that lead to something in
both or in neither. -/
theorem filter_below_congr {p : List Text → Bool}
    (h : ∀ names, p names = true →
      (tree'.get? (location ++ names)).isSome = (tree.get? (location ++ names)).isSome) :
    ((tree'.below location).map Prod.fst).filter p =
      ((tree.below location).map Prod.fst).filter p := by
  -- Both are in order, so it is enough that they hold the same names.
  refine Text.strict_partsPrecede.eq_of_pairwise ((pairwise_names_below tree' location).filter p)
    ((pairwise_names_below tree location).filter p) fun names => ?_
  simp only [List.mem_filter, mem_names_below_iff, ← Option.isSome_iff_exists]
  exact and_congr_left fun hp => by rw [h names hp]

/-! ## Searches -/

variable {root : Path}

theorem listing_of_locate (hroot : tree.locate root = .ok (.inside location)) :
    tree.listing root = .ok (tree.below location) := by
  rw [listing, hroot]

/-- Below a path that leads to no place of the tree nothing is listed, unless it is too long. -/
theorem listing_of_not_inside (hroot : ∀ location, tree.locate root ≠ .ok (.inside location))
    (hshort : tree.locate root ≠ .error .nameTooLong) : tree.listing root = .ok [] := by
  unfold listing
  split
  · exact absurd ‹_› (hroot _)
  · exact absurd ‹_› hshort
  · rfl

/-- There are no other listings. -/
theorem listing_cases {items : List (List Text × FileEntry)} (h : tree.listing root = .ok items) :
    (∃ location, tree.locate root = .ok (.inside location) ∧ items = tree.below location) ∨
      (∀ location, tree.locate root ≠ .ok (.inside location)) ∧ items = [] := by
  by_cases hinside : ∃ location, tree.locate root = .ok (.inside location)
  · obtain ⟨location, hroot⟩ := hinside
    rw [listing_of_locate hroot] at h
    exact .inl ⟨location, hroot, (Except.ok.inj h).symm⟩
  · have hnone := not_exists.1 hinside
    by_cases hlong : tree.locate root = .error .nameTooLong
    · rw [listing, hlong] at h
      cases h
    · rw [listing_of_not_inside hnone hlong] at h
      exact .inr ⟨hnone, (Except.ok.inj h).symm⟩

/-- Things are opened one after the other. Files are passed over. -/
theorem openAll_cons (names : List Text) (entry : FileEntry)
    (items : List (List Text × FileEntry)) :
    tree.openAll root ((names, entry) :: items) =
      if entry = .directory then tree.look (root.extend names) >>= fun _ => tree.openAll root items
      else tree.openAll root items := by
  rw [openAll]

/-- All directories among some things are opened if none has a path that is too long. -/
theorem openAll_eq_ok_iff {items : List (List Text × FileEntry)} :
    tree.openAll root items = .ok () ↔ ∀ names, (names, FileEntry.directory) ∈ items →
      tree.locate (root.extend names) ≠ .error .nameTooLong := by
  induction items with
  | nil => simp [openAll]
  | cons item items ih =>
    obtain ⟨names, entry⟩ := item
    rw [openAll_cons]
    cases entry with
    | file bytes => simp [ih]
    | directory =>
      rw [if_pos rfl, bind_eq_ok, exists_and_right, exists_look_iff, ih]
      simp

/-- A search shows everything below a directory, unless the path of a directory is too long. -/
theorem search_eq_ok_iff (hroot : tree.locate root = .ok (.inside location))
    {found : List (List Text)} :
    tree.search root = .ok found ↔
      (∀ names, names ≠ [] → tree.get? (location ++ names) = some .directory →
        tree.locate (root.extend names) ≠ .error .nameTooLong) ∧
      found = (tree.below location).map Prod.fst := by
  have hopened : tree.openAll root (tree.below location) = .ok () ↔
      ∀ names, names ≠ [] → tree.get? (location ++ names) = some .directory →
        tree.locate (root.extend names) ≠ .error .nameTooLong := by
    simp only [openAll_eq_ok_iff, mem_below_iff, and_imp]
  rw [search, listing_of_locate hroot, ok_bind, bind_eq_ok, ← hopened]
  constructor
  · rintro ⟨_, hopen, hfound⟩
    exact ⟨hopen, (Except.ok.inj hfound).symm⟩
  · rintro ⟨hopen, rfl⟩
    exact ⟨(), hopen, rfl⟩

/-- A search elsewhere shows nothing. -/
theorem search_of_not_inside (hroot : ∀ location, tree.locate root ≠ .ok (.inside location))
    (hshort : tree.locate root ≠ .error .nameTooLong) : tree.search root = .ok [] := by
  rw [search, listing_of_not_inside hroot hshort]
  rfl

/-- There are no other searches. -/
theorem search_cases {found : List (List Text)} (h : tree.search root = .ok found) :
    (∃ location, tree.locate root = .ok (.inside location) ∧
      found = (tree.below location).map Prod.fst) ∨
      (∀ location, tree.locate root ≠ .ok (.inside location)) ∧ found = [] := by
  obtain ⟨items, hlisting, h⟩ := bind_eq_ok.1 h
  obtain ⟨-, -, h⟩ := bind_eq_ok.1 h
  obtain rfl := Except.ok.inj h
  obtain ⟨location, hroot, rfl⟩ | ⟨hnone, rfl⟩ := listing_cases hlisting
  · exact .inl ⟨location, hroot, rfl⟩
  · exact .inr ⟨hnone, rfl⟩

/-! ## Files among paths -/

/-- Paths that lead to files of the tree, each to another one. -/
structure FilesAt (tree : FileTree) (paths : List Path) : Prop where
  /-- Every path leads to a file. -/
  leads : ∀ path ∈ paths, ∃ location bytes,
    tree.locate path = .ok (.inside location) ∧ tree.get? location = some (.file bytes)
  /-- No two paths lead to the same file. -/
  apart : paths.Pairwise fun path path' => tree.locate path ≠ tree.locate path'

theorem FilesAt.sublist {paths paths' : List Path} (h : FilesAt tree paths)
    (hsub : paths'.Sublist paths) : FilesAt tree paths' where
  leads path hpath := h.leads path (hsub.subset hpath)
  apart := h.apart.sublist hsub

/-- Paths still lead to files, each to another one, where the directories stay and files stay files.
-/
theorem FilesAt.congr {paths : List Path} (h : FilesAt tree paths)
    (hdirectories : SameDirectories tree tree')
    (hfiles : ∀ location bytes, tree.get? location = some (.file bytes) →
      ∃ bytes', tree'.get? location = some (.file bytes')) : FilesAt tree' paths where
  leads path hpath := by
    obtain ⟨location, bytes, hplace, hfile⟩ := h.leads path hpath
    obtain ⟨bytes', hfile'⟩ := hfiles location bytes hfile
    exact ⟨location, bytes', (locate_congr hdirectories).2 hplace, hfile'⟩
  apart := by
    refine h.apart.imp_of_mem ?_
    intro path path' hpath hpath' hne heq
    obtain ⟨location, -, hplace, -⟩ := h.leads path hpath
    rw [(locate_congr hdirectories).2 hplace, eq_comm, locate_congr hdirectories] at heq
    exact hne (hplace.trans heq.symm)

/-- Items whose paths lead to the same file are the same. -/
theorem FilesAt.eq_of_locate {α : Type} {items : List α} {path : α → Path}
    (h : FilesAt tree (items.map path)) {item item' : α} (hitem : item ∈ items)
    (hitem' : item' ∈ items) (heq : tree.locate (path item) = tree.locate (path item')) :
    item = item' := by
  have hsymm : Std.Symm fun item item' => tree.locate (path item) ≠ tree.locate (path item') :=
    ⟨fun _ _ => Ne.symm⟩
  -- Being apart is symmetric, so it holds in whatever order the items come.
  by_contra hne
  exact (List.pairwise_map.1 h.apart).forall hitem hitem' hne heq

/-- The files among some paths are in the same order, and a file is seen at the end of each. -/
theorem filesAmong_spec {paths files : List Path} (h : tree.filesAmong paths = .ok files) :
    files.Sublist paths ∧
      ∀ path ∈ files, ∃ bytes, tree.look path = .ok (some (.file bytes)) := by
  induction paths generalizing files with
  | nil =>
    cases h
    exact ⟨.refl _, by simp⟩
  | cons path paths ih =>
    obtain ⟨seen, hlook, h⟩ := bind_eq_ok.1 h
    obtain ⟨rest, hrest, h⟩ := bind_eq_ok.1 h
    obtain ⟨hsub, hfiles⟩ := ih hrest
    cases h
    split
    · rename_i hfile
      refine ⟨hsub.cons_cons path, ?_⟩
      intro path' hpath'
      rcases List.mem_cons.1 hpath' with rfl | hpath'
      · match seen, hfile with
        | some (.file bytes), _ => exact ⟨bytes, hlook⟩
      · exact hfiles path' hpath'
    · exact ⟨hsub.cons path, hfiles⟩

/-- There are files among some paths if none is too long, perhaps no files. -/
theorem exists_filesAmong_iff {paths : List Path} :
    (∃ files, tree.filesAmong paths = .ok files) ↔
      ∀ path ∈ paths, ∃ seen, tree.look path = .ok seen := by
  induction paths with
  | nil => simp [filesAmong]
  | cons path paths ih =>
    rw [List.forall_mem_cons, ← ih]
    constructor
    · rintro ⟨files, h⟩
      obtain ⟨seen, hseen, h⟩ := bind_eq_ok.1 h
      obtain ⟨rest, hrest, -⟩ := bind_eq_ok.1 h
      exact ⟨⟨seen, hseen⟩, rest, hrest⟩
    · rintro ⟨⟨seen, hseen⟩, rest, hrest⟩
      exact ⟨_, bind_eq_ok.2 ⟨seen, hseen, bind_eq_ok.2 ⟨rest, hrest, rfl⟩⟩⟩

/-- No file among some paths is left out. -/
theorem mem_filesAmong_iff {paths files : List Path} (h : tree.filesAmong paths = .ok files)
    {path : Path} :
    path ∈ files ↔ path ∈ paths ∧ ∃ bytes, tree.look path = .ok (some (.file bytes)) := by
  refine ⟨fun hpath => ⟨(filesAmong_spec h).1.subset hpath, (filesAmong_spec h).2 path hpath⟩, ?_⟩
  induction paths generalizing files with
  | nil => simp
  | cons first paths ih =>
    obtain ⟨seen, hseen, h⟩ := bind_eq_ok.1 h
    obtain ⟨rest, hrest, h⟩ := bind_eq_ok.1 h
    cases h
    rintro ⟨hpath, bytes, hlook⟩
    rcases List.mem_cons.1 hpath with rfl | hpath
    · cases Except.ok.inj (hseen.symm.trans hlook)
      exact List.mem_cons_self
    · have hmem := ih hrest ⟨hpath, bytes, hlook⟩
      split
      · exact List.mem_cons_of_mem _ hmem
      · exact hmem

/-- A path that some names below a directory extend leads to where the names do. -/
theorem locate_extend {root : Path} {place : Place}
    (hroot : tree.locate root = .ok (.inside location)) (hnames : ∀ name ∈ names, IsFileName name)
    (hplace : tree.locate (root.extend names) = .ok place) :
    place = .inside (location ++ names) := by
  have hwalk := (locate_eq_ok_iff.1 hplace).2.2
  have hstart : Place.start (root.extend names) = Place.start root := rfl
  rw [hstart, Path.extend, List.foldlM_append, (locate_eq_ok_iff.1 hroot).2.2, ok_bind] at hwalk
  exact foldlM_step_names hnames hwalk

/-- The files that are listed below a directory are at the ends of their paths. -/
theorem filesAt_filesAmong {root : Path} {files : List Path}
    (hroot : tree.locate root = .ok (.inside location))
    (h : tree.filesAmong ((tree.below location).map fun item => root.extend item.1) = .ok files) :
    FilesAt tree files := by
  obtain ⟨hsub, hfiles⟩ := filesAmong_spec h
  -- The files among the listed paths come from listed items.
  obtain ⟨items, hitems, rfl⟩ := List.sublist_map_iff.1 hsub
  have hleads : ∀ item ∈ items, ∃ bytes,
      tree.locate (root.extend item.1) = .ok (.inside (location ++ item.1)) ∧
        tree.get? (location ++ item.1) = some (.file bytes) := by
    intro item hitem
    have hlisted := (mem_below (hitems.subset hitem)).2
    obtain ⟨bytes, hlook⟩ := hfiles _ (List.mem_map_of_mem hitem)
    obtain ⟨place, hplace, hfile⟩ := look_eq_some_iff.1 hlook
    obtain rfl := locate_extend hroot
      (fun name hname => isFileName_of_get? hlisted name (by simp [hname])) hplace
    exact ⟨bytes, hplace, hfile⟩
  refine ⟨?_, ?_⟩
  · intro path hpath
    obtain ⟨item, hitem, rfl⟩ := List.mem_map.1 hpath
    obtain ⟨bytes, hplace, hfile⟩ := hleads item hitem
    exact ⟨_, bytes, hplace, hfile⟩
  · rw [List.pairwise_map]
    refine ((pairwise_below tree location).sublist hitems).imp_of_mem ?_
    intro item item' hitem hitem' hne heq
    obtain ⟨bytes, hplace, -⟩ := hleads item hitem
    obtain ⟨bytes', hplace', -⟩ := hleads item' hitem'
    -- The same location would be reached by the same names.
    rw [hplace, hplace'] at heq
    simp only [Except.ok.injEq, Place.inside.injEq, List.append_cancel_left_eq] at heq
    exact hne heq

end ClassScope.FileTree
