import ClassScope.Naming.Registry
import Mathlib.Data.List.Nodup

/-!
# Lookups

What actions on a registry give does not depend on the names that were met before, as long as every
entry holds the full name that a first lookup would give. This file states that invariant
(`Registry.Valid`), names the effect of looking names up one after the other (`Registry.enter`), and
describes an action by its value and the names it looks up (`Naming.LooksUp`). Main statements:

- `Registry.valid_enter`: lookups keep the invariant;
- `Registry.mem_names_enter`: the names entered are those that were there and those looked up;
- `Registry.names_enter`: new names come in the order of their first lookups;
- `Registry.enter_empty`: what lookups make of a fresh registry;
- `LooksUp.bind`, `LooksUp.mapM`, `LooksUp.rename`: descriptions of actions are put together.
-/

namespace ClassScope

namespace Registry

/-- The full name of a name in a scope. -/
def fullName (scope : Setting) (name : Text) : Text := scope.asText ++ name

/-- The names that have been entered, in the order of their first lookups. -/
def names (registry : Registry) : List Text := registry.entries.map Prod.fst

/-- Every entry holds the full name that a first lookup would give, and no name has two entries. -/
structure Valid (registry : Registry) : Prop where
  /-- The full name of an entry is its name in the scope. -/
  full : ∀ entry ∈ registry.entries, entry.2 = fullName registry.scope entry.1
  /-- No name has two entries. -/
  nodup : registry.names.Nodup

/-- The registry after some lookups, one after the other. -/
def enter (registry : Registry) (names : List Text) : Registry :=
  names.foldl (fun registry name => (resolve name registry).2) registry

/-! ## One lookup -/

theorem mem_entries_of_get? {registry : Registry} {name full : Text}
    (h : registry.get? name = some full) : (name, full) ∈ registry.entries := by
  obtain ⟨entry, hfind, rfl⟩ := Option.map_eq_some_iff.1 h
  have hname : entry.1 = name := by simpa using List.find?_some hfind
  rw [← hname]
  exact List.mem_of_find?_eq_some hfind

theorem not_mem_names_of_get? {registry : Registry} {name : Text}
    (h : registry.get? name = none) : name ∉ registry.names := by
  intro hmem
  obtain ⟨entry, hentry, rfl⟩ := List.mem_map.1 hmem
  have hfind := List.find?_eq_none.1 (Option.map_eq_none_iff.1 h) entry hentry
  simp at hfind

@[simp]
theorem scope_resolve (name : Text) (registry : Registry) :
    (resolve name registry).2.scope = registry.scope := by
  unfold resolve
  split <;> rfl

/-- On a valid registry a lookup gives the name in the scope, new or not. -/
theorem resolve_fst {registry : Registry} (h : registry.Valid) (name : Text) :
    (resolve name registry).1 = fullName registry.scope name := by
  unfold resolve
  split
  · rename_i full hfull
    exact h.full _ (mem_entries_of_get? hfull)
  · rfl

/-- After a lookup the name stands at the end, unless it had been entered before. -/
theorem names_resolve (name : Text) (registry : Registry) :
    (resolve name registry).2.names =
      if name ∈ registry.names then registry.names else registry.names ++ [name] := by
  unfold resolve
  split
  · rename_i full hfull
    exact (if_pos (List.mem_map_of_mem (mem_entries_of_get? hfull))).symm
  · rename_i hnew
    rw [if_neg (not_mem_names_of_get? hnew)]
    simp [names]

/-- After a lookup the name has been entered, and so have those that were before. -/
theorem mem_names_resolve {registry : Registry} {name other : Text} :
    other ∈ (resolve name registry).2.names ↔ other ∈ registry.names ∨ other = name := by
  unfold resolve
  split
  · rename_i full hfull
    constructor
    · exact .inl
    · rintro (h | rfl)
      · exact h
      · exact List.mem_map_of_mem (mem_entries_of_get? hfull)
  · simp [names]

/-- A lookup keeps the registry valid. -/
theorem Valid.resolve {registry : Registry} (h : registry.Valid) (name : Text) :
    (resolve name registry).2.Valid := by
  unfold Registry.resolve
  split
  · exact h
  -- A new name is put at the end, with its full name.
  · rename_i hnew
    refine ⟨?_, ?_⟩
    · intro entry hentry
      rcases List.mem_append.1 hentry with hold | hadded
      · exact h.full entry hold
      · rw [List.mem_singleton.1 hadded]
        rfl
    · have hnames : name ∉ registry.names := not_mem_names_of_get? hnew
      simp only [names, List.map_append, List.map_cons, List.map_nil]
      exact List.Nodup.concat hnames h.nodup |> (List.concat_eq_append ▸ ·)

/-! ## Several lookups -/

theorem valid_empty (scope : Setting) : (empty scope).Valid := by
  refine ⟨?_, ?_⟩
  · intro entry hentry
    cases hentry
  · exact List.nodup_nil

@[simp]
theorem enter_nil (registry : Registry) : registry.enter [] = registry := rfl

@[simp]
theorem enter_cons (registry : Registry) (name : Text) (names : List Text) :
    registry.enter (name :: names) = (resolve name registry).2.enter names := rfl

theorem enter_append (registry : Registry) (names others : List Text) :
    registry.enter (names ++ others) = (registry.enter names).enter others :=
  List.foldl_append

@[simp]
theorem scope_enter (registry : Registry) (names : List Text) :
    (registry.enter names).scope = registry.scope := by
  induction names generalizing registry with
  | nil => rfl
  | cons name names ih => rw [enter_cons, ih, scope_resolve]

theorem valid_enter {registry : Registry} (h : registry.Valid) (names : List Text) :
    (registry.enter names).Valid := by
  induction names generalizing registry with
  | nil => exact h
  | cons name names ih => exact ih (h.resolve name)

/-- The names that have been entered after some lookups are those from before and those looked
up. -/
theorem mem_names_enter {registry : Registry} {names : List Text} {name : Text} :
    name ∈ (registry.enter names).names ↔ name ∈ registry.names ∨ name ∈ names := by
  induction names generalizing registry with
  | nil => simp
  | cons first names ih =>
    rw [enter_cons, ih, mem_names_resolve, List.mem_cons, or_assoc]

/-- Lookups put entries at the end and change none that is there. -/
theorem entries_prefix_enter (registry : Registry) (names : List Text) :
    registry.entries <+: (registry.enter names).entries := by
  induction names generalizing registry with
  | nil => exact List.prefix_refl _
  | cons name names ih =>
    refine List.IsPrefix.trans ?_ (ih (resolve name registry).2)
    unfold resolve
    split
    · exact List.prefix_refl _
    · exact List.prefix_append _ _

/-- The names that are new come in the order of their first lookups. -/
theorem names_enter (registry : Registry) (names : List Text) :
    (registry.enter names).names =
      registry.names ++ (names.filter (· ∉ registry.names)).eraseDups := by
  induction names generalizing registry with
  | nil => simp
  | cons name names ih =>
    rw [enter_cons, ih, names_resolve]
    by_cases hmem : name ∈ registry.names
    · simp [hmem]
    · -- What is new besides the first name are the other new names but for that one.
      simp only [hmem, if_false, List.filter_cons, not_false_eq_true, decide_true, if_true,
        List.eraseDups_cons, List.append_assoc, List.singleton_append, List.filter_filter]
      congr 3
      refine List.filter_congr fun other _ => ?_
      by_cases hother : other = name <;> simp [hother]

/-- A valid registry is known from its scope and its names. -/
theorem entries_eq {registry : Registry} (h : registry.Valid) :
    registry.entries = registry.names.map fun name => (name, fullName registry.scope name) := by
  rw [names, List.map_map]
  conv_lhs => rw [← List.map_id registry.entries]
  refine List.map_congr_left fun entry hentry => ?_
  rw [id_eq, Function.comp_apply, ← h.full entry hentry]

/-- After lookups in a fresh registry the entries are the names in the order of their first lookups,
with their full names. -/
theorem enter_empty (scope : Setting) (names : List Text) :
    (empty scope).enter names =
      ⟨scope, names.eraseDups.map fun name => (name, fullName scope name)⟩ := by
  have hscope : ((empty scope).enter names).scope = scope := scope_enter _ names
  have hnames : ((empty scope).enter names).names = names.eraseDups := by
    rw [names_enter]
    simp [Registry.names, empty]
  have hentries := entries_eq (valid_enter (valid_empty scope) names)
  rw [hnames, hscope] at hentries
  rw [← hentries, show Registry.mk scope _ = ⟨((empty scope).enter names).scope, _⟩ by rw [hscope]]

/-- Two valid registries of one scope with the same names hold the same entries, each as often. -/
theorem entries_perm {registry other : Registry} (h : registry.Valid) (h' : other.Valid)
    (hscope : registry.scope = other.scope)
    (hnames : ∀ name, name ∈ registry.names ↔ name ∈ other.names) :
    registry.entries.Perm other.entries := by
  -- No name is entered twice, so the same names are the same up to order.
  have hperm : registry.names.Perm other.names :=
    (List.perm_ext_iff_of_nodup h.nodup h'.nodup).2 hnames
  rw [entries_eq h, entries_eq h', hscope]
  exact hperm.map _

/-- Lookups of the same names, in any order and each as often as one likes, enter the same names. -/
theorem entries_enter_perm {registry : Registry} (h : registry.Valid) {names others : List Text}
    (hnames : ∀ name, name ∈ names ↔ name ∈ others) :
    (registry.enter names).entries.Perm (registry.enter others).entries := by
  refine entries_perm (valid_enter h names) (valid_enter h others) ?_ fun name => ?_
  · rw [scope_enter, scope_enter]
  · rw [mem_names_enter, mem_names_enter, hnames]

end Registry

/-! ## Actions -/

/-- On every valid registry of a scope the action gives `value`, and it looks `names` up in this
order. -/
def Naming.LooksUp {α : Type} (action : Naming α) (scope : Setting) (names : List Text)
    (value : α) : Prop :=
  ∀ registry : Registry, registry.Valid → registry.scope = scope →
    action registry = (value, registry.enter names)

namespace Naming.LooksUp

variable {α β : Type} {scope : Setting}

theorem pure (value : α) : (Pure.pure value : Naming α).LooksUp scope [] value :=
  fun _ _ _ => rfl

/-- A lookup gives the name in the scope. -/
theorem resolve (name : Text) :
    (Registry.resolve name).LooksUp scope [name] (Registry.fullName scope name) := by
  intro registry hvalid hscope
  rw [← hscope, ← Registry.resolve_fst hvalid]
  rfl

/-- The second of two actions finds the names of the first one entered, which changes nothing. -/
theorem bind {x : Naming α} {f : α → Naming β} {names others : List Text} {a : α} {b : β}
    (hx : x.LooksUp scope names a) (hf : (f a).LooksUp scope others b) :
    (x >>= f).LooksUp scope (names ++ others) b := by
  intro registry hvalid hscope
  -- The second action runs on the registry that the first one leaves, which is valid as well.
  have hfirst := hx registry hvalid hscope
  have hsecond := hf (registry.enter names) (Registry.valid_enter hvalid names) (by simpa)
  rw [Registry.enter_append, ← hsecond]
  change (f (x registry).1) (x registry).2 = _
  rw [hfirst]

theorem map {x : Naming α} {names : List Text} {a : α} (f : α → β)
    (hx : x.LooksUp scope names a) : (f <$> x).LooksUp scope names (f a) := by
  intro registry hvalid hscope
  change (f (x registry).1, (x registry).2) = _
  rw [hx registry hvalid hscope]

/-- An action for the first item of a list, then one for the others. -/
theorem cons {x : Naming α} {xs : Naming (List α)} {names others : List Text} {a : α}
    {as : List α} (hx : x.LooksUp scope names a) (hxs : xs.LooksUp scope others as) :
    (do return (← x) :: (← xs)).LooksUp scope (names ++ others) (a :: as) := by
  refine hx.bind ?_
  rw [← List.append_nil others]
  exact bind (f := fun rest => Pure.pure (a :: rest)) hxs (pure _)

/-- One action for each item of a list. -/
theorem mapM {f : α → Naming β} {names : α → List Text} {value : α → β}
    (h : ∀ item, (f item).LooksUp scope (names item) (value item)) (items : List α) :
    (items.mapM f).LooksUp scope (items.flatMap names) (items.map value) := by
  induction items with
  | nil => exact pure []
  | cons item items ih =>
    rw [List.mapM_cons]
    exact cons (h item) ih

/-- The lookups of a pass are those of the instances it meets, from left to right, and the text it
gives is that with the instances replaced. -/
theorem rename (form : Form Char α) {replace : α → Naming Text} {names : α → List Text}
    {text : α → Text} (h : ∀ a, (replace a).LooksUp scope (names a) (text a)) (s : Text) :
    (form.rename replace s).LooksUp scope ((form.find s).flatMap names)
      (form.substitute text s) := by
  unfold Form.rename Form.substitute Form.find
  rw [List.flatMap_def (l := form.pieces none s)]
  refine map List.flatten ?_
  -- Gaps look nothing up, so the names of all pieces are the names of the hits.
  induction form.pieces none s with
  | nil => exact pure []
  | cons piece pieces ih =>
    rw [List.mapM_cons]
    cases piece with
    | gap c => exact cons (pure [c]) ih
    | hit a => exact cons (h a) ih

end Naming.LooksUp

end ClassScope
