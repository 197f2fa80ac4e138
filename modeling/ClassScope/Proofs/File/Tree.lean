import ClassScope.File.Tree
import Mathlib.Data.List.Induction

/-!
# What stands in file trees

What stands at the locations of a tree, and what a change leaves. Files that are written keep the
directories of a tree (`FileTree.SameDirectories`). Main statements:

- `FileTree.get?_dropLast`, `FileTree.get?_of_append`: entries lie in directories;
- `FileTree.set?_isSome`, `FileTree.get?_set?`: where something can be put, and what stands in
  the tree then.
-/

namespace ClassScope.FileTree

variable {tree tree' : FileTree} {location : Location} {entry : FileEntry}

@[simp]
theorem get?_nil (tree : FileTree) : tree.get? [] = some .directory := rfl

theorem get?_eq_some_iff (h : location ≠ []) :
    tree.get? location = some entry ↔ (location, entry) ∈ tree.entries := by
  rw [get?, if_neg h]
  exact Table.get?_eq_some_iff tree.nodup

/-- A location has an entry of a tree that is a directory exactly when a directory stands there,
unless it is the working directory. -/
theorem get?_eq_directory_iff :
    tree.get? location = some .directory ↔
      location = [] ∨ (location, .directory) ∈ tree.entries := by
  by_cases h : location = []
  · simp [h]
  · simp [h, get?_eq_some_iff]

/-- A file does not stand at the working directory. -/
theorem ne_nil_of_file {bytes : List UInt8} (h : tree.get? location = some (.file bytes)) :
    location ≠ [] := by
  rintro rfl
  cases h

/-- What stands in a tree lies in a directory. -/
theorem get?_dropLast (h : tree.get? location = some entry) :
    tree.get? location.dropLast = some .directory := by
  by_cases hnil : location = []
  · simp [hnil]
  · exact get?_eq_directory_iff.2 (tree.closed _ ((get?_eq_some_iff hnil).1 h))

/-- What something lies in, directly or further up, is a directory. -/
theorem get?_of_append {names : List Text} (hnames : names ≠ [])
    (h : tree.get? (location ++ names) = some entry) : tree.get? location = some .directory := by
  -- The last name goes first: what it is in is a directory, and so on up to the location.
  induction names using List.reverseRecOn generalizing entry with
  | nil => exact absurd rfl hnames
  | append_singleton names name ih =>
    have hparent := get?_dropLast h
    rw [← List.append_assoc, List.dropLast_concat] at hparent
    by_cases hnil : names = []
    · simpa [hnil] using hparent
    · exact ih hnil hparent

/-- The names that lead to something in a tree are names of files. -/
theorem isFileName_of_get? (h : tree.get? location = some entry) :
    ∀ name ∈ location, IsFileName name := by
  -- The tree says of each entry that its last part is a name; the entry above says so of the
  -- others.
  induction location using List.reverseRecOn generalizing entry with
  | nil => simp
  | append_singleton location last ih =>
    have hparent := get?_dropLast h
    rw [List.dropLast_concat] at hparent
    obtain ⟨name, hlast, hname⟩ := tree.named _ ((get?_eq_some_iff (by simp)).1 h)
    rw [List.getLast?_concat, Option.some.injEq] at hlast
    intro part hpart
    rcases List.mem_append.1 hpart with hpart | hpart
    · exact ih hparent part hpart
    · rw [List.mem_singleton.1 hpart, hlast]
      exact hname

/-! ## Changes -/

/-- What stands in a tree after an entry was put somewhere. -/
theorem get?_set? (h : tree.set? location entry = some tree') (other : Location) :
    tree'.get? other = if other = location then some entry else tree.get? other := by
  unfold set? at h
  split at h
  · cases h
  · rename_i name hlast
    have hlocation : location ≠ [] := by
      rintro rfl
      cases hlast
    split at h
    · split at h
      · split at h
        · cases h
        · rw [Option.some.injEq] at h
          subst h
          -- The new entry is found first; all others are looked up as before.
          by_cases hother : other = location
          · subst hother
            simp [get?, hlocation, put]
          · by_cases hnil : other = []
            · simp [hnil, Ne.symm hlocation]
            · simp only [get?, hnil, hother, if_false, put]
              exact Table.get?_put_of_ne entry tree.entries hother
      · cases h
    · cases h

/-- Putting something where it stands already changes nothing. -/
theorem eq_of_set? (h : tree.set? location entry = some tree')
    (hthere : tree.get? location = some entry) : tree' = tree := by
  unfold set? at h
  split at h
  · cases h
  · rename_i name hlast
    have hlocation : location ≠ [] := by
      rintro rfl
      cases hlast
    rw [get?, if_neg hlocation] at hthere
    split at h
    · split at h
      · split at h
        · cases h
        · have hentries : tree'.entries = tree.entries := by
            rw [← Option.some.inj h]
            exact Table.put_eq_self hthere
          -- A tree is its entries; the rest of it is proofs.
          cases tree
          cases tree'
          cases hentries
          rfl
      · cases h
    · cases h

/-- Something can be put under a name in a directory where no directory has it. -/
theorem set?_isSome {name : Text} (hname : IsFileName name)
    (hparent : tree.get? location = some .directory)
    (hfree : tree.get? (location ++ [name]) ≠ some .directory) (entry : FileEntry) :
    ∃ tree', tree.set? (location ++ [name]) entry = some tree' := by
  -- The tree asks for its conditions on entries; they follow from what stands in it.
  have hfree' : (location ++ [name], FileEntry.directory) ∉ tree.entries := fun h =>
    hfree (get?_eq_directory_iff.2 (.inr h))
  have hparent' := get?_eq_directory_iff.1 hparent
  unfold set?
  split
  · rename_i hlast
    simp at hlast
  · rename_i last hlast
    rw [List.getLast?_concat, Option.some.injEq] at hlast
    subst hlast
    rw [dif_pos hname]
    simp only [List.dropLast_concat, hparent', hfree', dif_pos, dif_neg, not_false_eq_true]
    exact ⟨_, rfl⟩

/-- The same directories stand in two trees. -/
def SameDirectories (tree tree' : FileTree) : Prop :=
  ∀ location, tree'.get? location = some .directory ↔ tree.get? location = some .directory

theorem SameDirectories.refl (tree : FileTree) : SameDirectories tree tree := fun _ => .rfl

theorem SameDirectories.trans {tree'' : FileTree} (h : SameDirectories tree tree')
    (h' : SameDirectories tree' tree'') : SameDirectories tree tree'' := fun location =>
  (h' location).trans (h location)

/-- A file that is put where no directory stands leaves the directories. -/
theorem sameDirectories_set? {bytes : List UInt8}
    (h : tree.set? location (.file bytes) = some tree')
    (hfree : tree.get? location ≠ some .directory) : SameDirectories tree tree' := by
  intro other
  rw [get?_set? h]
  split
  · rename_i hother
    subst hother
    simp [hfree]
  · rfl

end ClassScope.FileTree
