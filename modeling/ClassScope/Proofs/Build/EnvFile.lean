import ClassScope.Build.EnvFile
import ClassScope.Proofs.Outcome
import Mathlib.Data.List.Induction

/-!
# What a file of variables gives

Of all bindings of a name in a file the last one counts. Its references are replaced by what they
stand for where it stands, and it gives nothing if it has no value. The variables of the environment
stay as they are. Main statements:

- `EnvFile.Gives`, `EnvFile.gives_iff`: the value that a file gives a variable;
- `EnvFile.get?_apply`: the variables of an environment after a file was read.
-/

namespace ClassScope

theorem Table.get?_append {κ β : Type} [DecidableEq κ] (table table' : List (κ × β)) (key : κ) :
    Table.get? (table ++ table') key = (Table.get? table key).or (Table.get? table' key) := by
  induction table with
  | nil => rfl
  | cons entry table ih =>
    rw [List.cons_append, Table.get?_cons, Table.get?_cons, ih]
    split <;> rfl

/-- Nothing is found under a key that is none of the table. -/
theorem Table.get?_eq_none {κ β : Type} [DecidableEq κ] {table : List (κ × β)} {key : κ}
    (h : key ∉ table.map Prod.fst) : Table.get? table key = none := by
  induction table with
  | nil => rfl
  | cons entry table ih =>
    obtain ⟨hentry, htable⟩ := not_or.1 (List.mem_cons.not.1 h)
    rw [Table.get?_cons, if_neg (Ne.symm hentry), ih htable]

namespace EnvFile

variable {environment : Environment} {bindings earlier : List Binding} {contents name : Text}
  {raw : Option Text} {value : Text}

/-! ## The last binding of a name -/

/-- The last binding of a name, with what stands in front of it. -/
def IsLast (bindings : List Binding) (name : Text) (earlier : List Binding) (raw : Option Text) :
    Prop :=
  ∃ later, bindings = earlier ++ ⟨name, raw⟩ :: later ∧ ∀ binding ∈ later, binding.name ≠ name

/-- A name is bound nowhere, or it has a last binding. -/
theorem unbound_or_isLast (bindings : List Binding) (name : Text) :
    (∀ binding ∈ bindings, binding.name ≠ name) ∨
      ∃ earlier raw, IsLast bindings name earlier raw := by
  induction bindings with
  | nil => simp
  | cons binding bindings ih =>
    rcases ih with hnone | ⟨earlier, raw, later, rfl, hlater⟩
    · by_cases hname : binding.name = name
      · exact .inr ⟨[], binding.value, bindings, by rw [← hname, List.nil_append], hnone⟩
      · exact .inl (List.forall_mem_cons.2 ⟨hname, hnone⟩)
    · exact .inr ⟨binding :: earlier, raw, later, rfl, hlater⟩

/-- One more binding is expanded with all others in front of it. -/
theorem expand_concat (bindings : List Binding) (binding : Binding) :
    expand environment (bindings ++ [binding]) =
      Table.put binding.name
        (binding.value.map (expandValue environment (expand environment bindings)))
        (expand environment bindings) :=
  List.foldl_append ..

/-- No name is there twice after expansion. -/
theorem nodup_expand (environment : Environment) (bindings : List Binding) :
    ((expand environment bindings).map Prod.fst).Nodup := by
  induction bindings using List.reverseRecOn with
  | nil => exact List.nodup_nil
  | append_singleton bindings binding ih =>
    rw [expand_concat]
    exact Table.nodup_keys_put _ _ ih

theorem get?_expand_of_unbound (h : ∀ binding ∈ bindings, binding.name ≠ name) :
    Table.get? (expand environment bindings) name = none := by
  induction bindings using List.reverseRecOn with
  | nil => rfl
  | append_singleton bindings binding ih =>
    obtain ⟨hbindings, hbinding⟩ := List.forall_mem_append.1 h
    rw [expand_concat, Table.get?_put_of_ne _ _ (Ne.symm (hbinding _ (List.mem_singleton_self _))),
      ih hbindings]

/-- What stands under a name after expansion comes from its last binding. -/
theorem get?_expand_of_isLast (h : IsLast bindings name earlier raw) :
    Table.get? (expand environment bindings) name =
      some (raw.map (expandValue environment (expand environment earlier))) := by
  obtain ⟨later, rfl, hlater⟩ := h
  induction later using List.reverseRecOn with
  | nil => rw [expand_concat, Table.get?_put_self]
  | append_singleton later binding ih =>
    obtain ⟨hlater, hbinding⟩ := List.forall_mem_append.1 hlater
    rw [← List.cons_append, ← List.append_assoc, expand_concat,
      Table.get?_put_of_ne _ _ (Ne.symm (hbinding _ (List.mem_singleton_self _))), ih hlater]

/-! ## Variables -/

/-- The contents of a file give a variable a value: that of its last binding, with references
replaced. -/
def Gives (environment : Environment) (contents name value : Text) : Prop :=
  ∃ earlier raw, IsLast (ofContents contents) name earlier (some raw) ∧
    value = expandValue environment (expand environment earlier) raw

theorem gives_iff :
    Gives environment contents name value ↔
      (Table.get? (expand environment (ofContents contents)) name).join = some value := by
  constructor
  · rintro ⟨earlier, raw, hlast, rfl⟩
    rw [get?_expand_of_isLast hlast]
    rfl
  · intro h
    rcases unbound_or_isLast (ofContents contents) name with hnone | ⟨earlier, raw, hlast⟩
    · rw [get?_expand_of_unbound hnone] at h
      cases h
    · rw [get?_expand_of_isLast hlast] at h
      obtain ⟨raw, rfl, rfl⟩ := Option.map_eq_some_iff.1 h
      exact ⟨earlier, raw, hlast, rfl⟩

/-- A variable that is not set has the value that is found under its name, if there is one. -/
theorem get?_extend {values : List (Text × Option Text)} {added : Environment}
    (hvalues : (values.map Prod.fst).Nodup) (h : extend environment values = .ok added)
    (hname : Table.get? environment name = none) :
    Table.get? added name = (Table.get? values name).join := by
  induction values generalizing added with
  | nil =>
    cases h
    rfl
  | cons entry values ih =>
    obtain ⟨other, raw⟩ := entry
    obtain ⟨hother, hrest⟩ := List.nodup_cons.1 hvalues
    rw [Table.get?_cons]
    cases raw with
    | none =>
      rw [ih hrest h]
      split
      · -- The name comes once only, and it has no value here.
        rename_i heq
        rw [Table.get?_eq_none (heq ▸ hother)]
        rfl
      · rfl
    | some s =>
      rw [extend] at h
      split at h
      · rename_i hset
        have hne : other ≠ name := by
          rintro rfl
          rw [hname] at hset
          cases hset
        rw [if_neg hne, ih hrest h]
      · split at h
        · cases h
        · split at h
          · cases h
          · obtain ⟨others, hothers, h⟩ := bind_eq_ok.1 h
            cases h
            rw [Table.get?_cons, ih hrest hothers]
            split <;> rfl

/-- The variables of the environment win over those of a file. -/
theorem get?_apply {environment' : Environment}
    (h : apply environment contents = .ok environment') :
    Table.get? environment' name = (Table.get? environment name).or
      (Table.get? (expand environment (ofContents contents)) name).join := by
  obtain ⟨added, hadded, h⟩ := bind_eq_ok.1 h
  cases h
  rw [Table.get?_append]
  cases hname : Table.get? environment name with
  | none => rw [Option.none_or, Option.none_or, get?_extend (nodup_expand _ _) hadded hname]
  | some s => rfl

end EnvFile

end ClassScope
