import ClassScope.File.Access
import ClassScope.Proofs.File.Tree
import ClassScope.Proofs.Outcome

/-!
# Where paths lead

Which place a path leads to depends on the directories alone, so writing files does not change it.
From outside of the working directory no path leads back into the tree. Main statements:

- `FileTree.step_eq_ok_iff`, `FileTree.locate_eq_ok_iff`: where one part leads, and where a path
  does;
- `FileTree.locate_congr`, `FileTree.look_congr`: paths in trees with the same directories;
- `FileTree.not_isInside_of_join`: paths seen from a directory outside.
-/

namespace ClassScope

open ClassScope.Path (up)

/-! ## Places -/

namespace Place

/-- The place is a location of the tree. -/
def isInside : Place → Bool
  | inside _ => true
  | above _ => false
  | system _ => false

variable {place place' : Place} {name name' : Text} {location : Location}

theorem exists_of_isInside (h : place.isInside) : ∃ location, place = inside location := by
  cases place with
  | inside location => exact ⟨location, rfl⟩
  | above names => cases h
  | system names => cases h

theorem child_inj : place.child name = place'.child name' ↔ place = place' ∧ name = name' := by
  -- Places of different kinds are never in the same directory.
  cases place <;> cases place' <;> simp [child]

@[simp]
theorem isInside_child : (place.child name).isInside = place.isInside := by
  cases place <;> rfl

theorem not_isInside_parent (h : ¬ place.isInside) : ¬ place.parent.isInside := by
  cases place with
  | inside location => exact absurd rfl h
  | above names => exact Bool.false_ne_true
  | system names => exact Bool.false_ne_true

theorem child_eq_inside_iff :
    place.child name = inside location ↔
      ∃ directory, place = inside directory ∧ location = directory ++ [name] := by
  cases place <;> simp [child, eq_comm]

end Place

/-- A null character in a path stands in its root or in one of its parts. -/
theorem Path.null_mem_text {path : Path} :
    '\x00' ∈ path.text ↔ '\x00' ∈ path.root ∨ ∃ part ∈ path.parts, '\x00' ∈ part := by
  rw [text]
  split
  · rename_i hempty
    simp [hempty.1, hempty.2]
  · rw [List.mem_append, Text.mem_join (by decide)]

namespace FileTree

variable {tree tree' : FileTree} {place next : Place} {path : Path} {bytes : List UInt8}

/-! ## Steps -/

/-- What is written nowhere keeps the directories, inside and outside. -/
theorem SameDirectories.standing? (h : SameDirectories tree tree') (place : Place) :
    tree'.standing? place = some .directory ↔ tree.standing? place = some .directory := by
  cases place with
  | inside location => exact h location
  | above names => cases names <;> rfl
  | system names => rfl

theorem standing?_outside (h : ¬ place.isInside) (tree tree' : FileTree) :
    tree'.standing? place = tree.standing? place := by
  cases place with
  | inside location => exact absurd rfl h
  | above names => cases names <;> rfl
  | system names => rfl

/-- What a directory lies in is a directory. -/
theorem standing?_parent (h : tree.standing? place = some .directory) :
    tree.standing? place.parent = some .directory := by
  cases place with
  | inside location =>
    cases location with
    | nil => rfl
    | cons name names => exact get?_dropLast h
  | above names =>
    cases names with
    | nil => rfl
    | cons name names => cases h
  | system names =>
    -- Only the root of the system and the directories in it stand there.
    match names, h with
    | [], _ => rfl
    | [_], _ => rfl
    | a :: b :: names, h =>
      simp only [FileTree.standing?, Place.systemEntry?] at h
      split at h <;> cases h

/-- One part leads somewhere from a directory: up, or to a name that is not too long. -/
theorem step_eq_ok_iff {part : Text} :
    tree.step place part = .ok next ↔
      tree.standing? place = some .directory ∧
        (part = up ∧ next = place.parent ∨
          part ≠ up ∧ (Utf8.encode part).length ≤ nameLimit ∧ next = place.child part) := by
  unfold step
  split
  · simp [*]
  · simp [*]
  · rename_i hdirectory
    by_cases hup : part = up
    · simp [hup, hdirectory, eq_comm]
    · by_cases hlong : nameLimit < (Utf8.encode part).length
      · simp [hup, hlong, Nat.not_le.2 hlong]
      · simp [hup, hlong, Nat.not_lt.1 hlong, hdirectory, eq_comm]

/-- A part is too long where it is looked for in a directory. -/
theorem step_eq_nameTooLong_iff {part : Text} :
    tree.step place part = .error .nameTooLong ↔
      tree.standing? place = some .directory ∧ part ≠ up ∧
        nameLimit < (Utf8.encode part).length := by
  unfold step
  split
  · simp [*]
  · simp [*]
  · rename_i hdirectory
    by_cases hup : part = up
    · simp [hup]
    · by_cases hlong : nameLimit < (Utf8.encode part).length
      · simp [hup, hlong, hdirectory]
      · simp [hup, hlong]

/-- From a directory, some names of files lead to the location below it, if they lead anywhere. -/
theorem foldlM_step_names {names : List Text} (hnames : ∀ name ∈ names, IsFileName name)
    {location : Location} (h : names.foldlM tree.step (.inside location) = .ok next) :
    next = .inside (location ++ names) := by
  -- Each name goes one directory down, so the location grows at its end.
  induction names generalizing location with
  | nil =>
    rw [List.append_nil]
    exact (Except.ok.inj h).symm
  | cons name names ih =>
    obtain ⟨place, hstep, hrest⟩ := bind_eq_ok.1 h
    have hname := hnames name List.mem_cons_self
    -- No name of a file leads up.
    rcases (step_eq_ok_iff.1 hstep).2 with ⟨hup, -⟩ | ⟨-, -, rfl⟩
    · exact absurd hup hname.2.2
    · have := ih (fun n hn => hnames n (List.mem_cons_of_mem _ hn)) hrest
      rw [this, List.append_assoc, List.singleton_append]

/-- From outside no path leads back into the tree. -/
theorem foldlM_step_outside {parts : List Text} (hplace : ¬ place.isInside)
    (h : parts.foldlM tree.step place = .ok next) : ¬ next.isInside := by
  induction parts generalizing place with
  | nil =>
    cases h
    exact hplace
  | cons part parts ih =>
    obtain ⟨place', hstep, hrest⟩ := bind_eq_ok.1 h
    -- Up or down, one step stays outside.
    refine ih ?_ hrest
    rcases (step_eq_ok_iff.1 hstep).2 with ⟨-, rfl⟩ | ⟨-, -, rfl⟩
    · exact Place.not_isInside_parent hplace
    · rwa [Place.isInside_child]

theorem step_congr_ok (h : SameDirectories tree tree') {part : Text} :
    tree'.step place part = .ok next ↔ tree.step place part = .ok next := by
  rw [step_eq_ok_iff, step_eq_ok_iff, h.standing?]

theorem foldlM_step_congr_ok (h : SameDirectories tree tree') {parts : List Text} :
    parts.foldlM tree'.step place = .ok next ↔ parts.foldlM tree.step place = .ok next := by
  -- A step asks only whether a directory stands at the place it starts from.
  induction parts generalizing place with
  | nil => rfl
  | cons part parts ih => simp only [List.foldlM_cons, bind_eq_ok, step_congr_ok h, ih]

/-- Some parts come to a name that is too long alike in trees with the same directories. -/
theorem foldlM_step_congr_nameTooLong (h : SameDirectories tree tree') {parts : List Text} :
    parts.foldlM tree'.step place = .error .nameTooLong ↔
      parts.foldlM tree.step place = .error .nameTooLong := by
  induction parts generalizing place with
  | nil => exact ⟨nofun, nofun⟩
  | cons part parts ih =>
    simp only [List.foldlM_cons, bind_eq_error, step_congr_ok h, ih, step_eq_nameTooLong_iff,
      h.standing?]

/-! ## Paths -/

/-- A path leads to a place when it has no null character, is not too long, and its parts lead
there. -/
theorem locate_eq_ok_iff :
    tree.locate path = .ok place ↔
      '\x00' ∉ path.text ∧ (Utf8.encode path.text).length ≤ pathLimit ∧
        path.parts.foldlM tree.step (.start path) = .ok place := by
  unfold locate
  by_cases hnull : '\x00' ∈ path.text
  · simp [hnull]
  · by_cases hlong : pathLimit < (Utf8.encode path.text).length
    · simp [hnull, hlong, Nat.not_le.2 hlong]
    · simp [hnull, hlong, Nat.not_lt.1 hlong]

/-- A path is too long as a whole, or comes to a name that is. -/
theorem locate_eq_nameTooLong_iff :
    tree.locate path = .error .nameTooLong ↔
      '\x00' ∉ path.text ∧
        (pathLimit < (Utf8.encode path.text).length ∨
          path.parts.foldlM tree.step (.start path) = .error .nameTooLong) := by
  unfold locate
  by_cases hnull : '\x00' ∈ path.text
  · simp [hnull]
  · by_cases hlong : pathLimit < (Utf8.encode path.text).length
    · simp [hnull, hlong]
    · simp [hnull, hlong]

/-- A path leads to the same place in trees with the same directories. -/
theorem locate_congr (h : SameDirectories tree tree') :
    tree'.locate path = .ok place ↔ tree.locate path = .ok place := by
  rw [locate_eq_ok_iff, locate_eq_ok_iff, foldlM_step_congr_ok h]

/-- A path that is seen from a directory outside leads outside. -/
theorem not_isInside_of_join {root : Path} {directory : Place} {s : Text}
    (hroot : tree.locate root = .ok directory) (houtside : ¬ directory.isInside)
    (h : tree.locate (root.join s) = .ok place) : ¬ place.isInside := by
  have hwalk := (locate_eq_ok_iff.1 h).2.2
  have hroot := (locate_eq_ok_iff.1 hroot).2.2
  -- An absolute path starts over, at the root of the system.
  by_cases hrelative : (Path.ofText s).root = []
  · have hjoin : root.join s = ⟨root.root, root.parts ++ (Path.ofText s).parts⟩ := if_pos hrelative
    have hstart : Place.start (root.join s) = Place.start root := by
      rw [hjoin]
      rfl
    rw [hstart, hjoin, List.foldlM_append, hroot, ok_bind] at hwalk
    exact foldlM_step_outside houtside hwalk
  · have hjoin : root.join s = Path.ofText s := if_neg hrelative
    rw [hjoin, Place.start, if_neg hrelative] at hwalk
    have hsystem : ¬ (Place.system []).isInside := Bool.false_ne_true
    exact foldlM_step_outside hsystem hwalk

theorem at?_of_locate (h : tree.locate path = .ok place) :
    tree.at? path = (tree.standing? place).elim (.error .missing) .ok := by
  rw [at?, h, ok_bind]
  cases tree.standing? place <;> rfl

theorem look_of_locate (h : tree.locate path = .ok place) :
    tree.look path = .ok (tree.standing? place) := by
  rw [look, at?_of_locate h]
  cases tree.standing? place <;> rfl

/-- Something is seen at the end of a path that leads to it. -/
theorem look_eq_some_iff {entry : FileEntry} :
    tree.look path = .ok (some entry) ↔
      ∃ place, tree.locate path = .ok place ∧ tree.standing? place = some entry := by
  cases hplace : tree.locate path with
  | error fault =>
    have hat : tree.at? path = .error fault := by rw [at?, hplace]; rfl
    cases fault <;> simp [look, hat]
  | ok place => simp [look_of_locate hplace]

/-- Looking at a path fails only if the path is too long or comes to a name that is. -/
theorem look_eq_error_iff {e : FileError} :
    tree.look path = .error e ↔
      tree.locate path = .error .nameTooLong ∧ e = ⟨.nameTooLong, path⟩ := by
  cases hplace : tree.locate path with
  | error fault =>
    have hat : tree.at? path = .error fault := by rw [at?, hplace]; rfl
    cases fault <;> simp [look, hat, eq_comm]
  | ok place => simp [look_of_locate hplace]

/-- Asking what is at the end of a path has an answer if the path is not too long. -/
theorem exists_look_iff :
    (∃ seen, tree.look path = .ok seen) ↔ tree.locate path ≠ .error .nameTooLong := by
  cases hlook : tree.look path with
  | error e => exact iff_of_false (by simp) fun h => h (look_eq_error_iff.1 hlook).1
  | ok seen =>
    refine iff_of_true ⟨seen, rfl⟩ fun hlong => ?_
    have herror := look_eq_error_iff.2 ⟨hlong, rfl⟩
    rw [hlook] at herror
    cases herror

theorem locate_congr_nameTooLong (h : SameDirectories tree tree') :
    tree'.locate path = .error .nameTooLong ↔ tree.locate path = .error .nameTooLong := by
  rw [locate_eq_nameTooLong_iff, locate_eq_nameTooLong_iff, foldlM_step_congr_nameTooLong h]

/-- What is seen at the end of a path depends on the directories and on what stands there. -/
theorem look_congr (h : SameDirectories tree tree')
    (hstanding : ∀ place, tree.locate path = .ok place →
      tree'.standing? place = tree.standing? place) : tree'.look path = tree.look path := by
  -- Other faults than too long names may differ, but they all show nothing.
  refine eq_of_holds_iff ?_ ?_
  · intro e
    rw [look_eq_error_iff, look_eq_error_iff, locate_congr_nameTooLong h]
  · intro entry
    rw [look_eq_some_iff, look_eq_some_iff]
    refine exists_congr fun place => ?_
    rw [locate_congr h]
    exact and_congr_right fun hplace => by rw [hstanding place hplace]

/-- The bytes that are read are those of the file that is seen. -/
theorem read_of_look {entry : FileEntry} (h : tree.look path = .ok (some entry)) :
    tree.read path =
      match entry with
      | .file bytes => .ok bytes
      | .directory => .error ⟨.isDirectory, path⟩ := by
  obtain ⟨place, hplace, hentry⟩ := look_eq_some_iff.1 h
  rw [read, at?_of_locate hplace, hentry]
  cases entry <;> rfl

/-- Something is there if something is seen. -/
theorem has_eq_true_iff :
    tree.has path = .ok true ↔ ∃ entry, tree.look path = .ok (some entry) := by
  rw [has]
  cases tree.look path with
  | error e => simp [Functor.map, Except.map]
  | ok seen => cases seen <;> simp [Functor.map, Except.map]

/-- What stands at the end of a path is there. -/
theorem has_of_at? {entry : FileEntry} (h : tree.at? path = .ok entry) :
    tree.has path = .ok true := by
  rw [has, look, h]
  rfl

/-- The bytes of the file at the end of a path are read. -/
theorem read_of_at? (h : tree.at? path = .ok (.file bytes)) : tree.read path = .ok bytes := by
  rw [read, h]

/-- A path at whose end nothing is seen leads to a free location. -/
theorem get?_eq_none_of_has {location : Location} (hhas : tree.has path = .ok false)
    (hplace : tree.locate path = .ok (.inside location)) : tree.get? location = none := by
  rw [has, look_of_locate hplace, standing?] at hhas
  cases hentry : tree.get? location with
  | none => rfl
  | some entry => simp [hentry] at hhas

/-- Where something is there, the bytes that are read depend on what is seen. -/
theorem read_congr (hhas : tree.has path = .ok true) (h : tree'.look path = tree.look path) :
    tree'.read path = tree.read path := by
  obtain ⟨entry, hlook⟩ := has_eq_true_iff.1 hhas
  rw [read_of_look hlook, read_of_look (h.trans hlook)]
  cases entry <;> rfl

/-- A text is read from a file only. -/
theorem exists_file_of_readText {s : Text} (h : tree.readText path = .ok s) :
    ∃ place bytes, tree.locate path = .ok place ∧ tree.standing? place = some (.file bytes) := by
  unfold readText read at h
  -- Where nothing or a directory stands, reading fails.
  cases hplace : tree.locate path with
  | error fault =>
    have hat : tree.at? path = .error fault := by rw [at?, hplace]; rfl
    rw [hat] at h
    cases h
  | ok place =>
    rw [at?_of_locate hplace] at h
    match hstanding : tree.standing? place with
    | none =>
      rw [hstanding] at h
      cases h
    | some .directory =>
      rw [hstanding] at h
      cases h
    | some (.file bytes) => exact ⟨place, bytes, rfl, hstanding⟩

end FileTree

end ClassScope
