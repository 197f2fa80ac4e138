import ClassScope.Command.Job
import ClassScope.Proofs.Outcome

/-!
# How jobs run

What a job gives and leaves, by its steps. Many steps only read: what they give depends on the files
alone, and they do nothing but print (`Job.ReadsOnly`). Main statements:

- `Job.run_bind`, with `Job.run_bind_ok` and `Job.run_bind_error`: one step after another;
- `Job.ReadsOnly.bind`, `Job.ReadsOnly.answer_bind`: steps that only read;
- `Job.Alike.bind`: steps that give and print the same on two trees.
-/

namespace ClassScope.Command

namespace Job

variable {α β ε : Type} {job : Job α} {next : α → Job β} {space space' : Workspace}
  {tree : FileTree} {printed : List Text}

/-! ## Steps -/

@[simp]
theorem run_pure (a : α) (space : Workspace) : (pure a : Job α).run space = (.ok a, space) := rfl

@[simp]
theorem run_throw (stop : Stop) (space : Workspace) :
    (throw stop : Job α).run space = (.error stop, space) := rfl

@[simp]
theorem run_print (line : Text) (space : Workspace) :
    (print line).run space = (.ok (), { space with printed := space.printed ++ [line] }) := rfl

@[simp]
theorem run_tree (space : Workspace) : Job.tree.run space = (.ok space.tree, space) := rfl

@[simp]
theorem run_orFail (failure : ε → Failure) (x : Except ε α) (space : Workspace) :
    (orFail failure x).run space = (x.mapError fun e => .failed (failure e), space) := by
  cases x <;> rfl

/-- A job after another one starts where that one ends, unless it stops. -/
theorem run_bind (job : Job α) (next : α → Job β) (space : Workspace) :
    (job >>= next).run space =
      match (job.run space).1 with
      | .ok a => (next a).run (job.run space).2
      | .error stop => (.error stop, (job.run space).2) := by
  -- Opened once here; all other lemmas use this one.
  simp only [ExceptT.run, bind, ExceptT.bind, ExceptT.mk, StateT.bind]
  rcases job space with ⟨a | a, space'⟩ <;> rfl

/-- A job after one that gives something. -/
theorem run_bind_ok {a : α} (h : job.run space = (.ok a, space')) :
    (job >>= next).run space = (next a).run space' := by
  rw [run_bind, h]

/-- A job after one that stops. -/
theorem run_bind_error {stop : Stop} (h : job.run space = (.error stop, space')) :
    (job >>= next).run space = (.error stop, space') := by
  rw [run_bind, h]

@[simp]
theorem run_has (path : Path) (space : Workspace) :
    (has path).run space = ((space.tree.has path).mapError fun e => .failed (.file e), space) := by
  rw [has, run_bind_ok (run_tree space), run_orFail]

/-! ## Steps that only read -/

/-- What a job gives on some files. -/
def answer (job : Job α) (tree : FileTree) : Except Stop α := (job.run ⟨tree, []⟩).1

/-- What a job prints on some files. -/
def lines (job : Job α) (tree : FileTree) : List Text := (job.run ⟨tree, []⟩).2.printed

theorem answer_has (path : Path) (tree : FileTree) :
    (has path).answer tree = (tree.has path).mapError fun e => .failed (.file e) := by
  rw [answer, run_has]

/-- The job changes no file, and what it gives and prints does not depend on what was printed. -/
def ReadsOnly (job : Job α) : Prop :=
  ∀ tree printed,
    job.run ⟨tree, printed⟩ = (job.answer tree, ⟨tree, printed ++ job.lines tree⟩)

/-- A job that shows on every workspace what it gives and prints. -/
theorem readsOnly_of_run (answer : FileTree → Except Stop α) (lines : FileTree → List Text)
    (h : ∀ tree printed, job.run ⟨tree, printed⟩ = (answer tree, ⟨tree, printed ++ lines tree⟩)) :
    job.ReadsOnly := by
  intro tree printed
  rw [Job.answer, Job.lines, h tree [], h tree printed]
  rfl

theorem readsOnly_pure (a : α) : (pure a : Job α).ReadsOnly :=
  readsOnly_of_run (fun _ => .ok a) (fun _ => []) fun _ printed => by simp

theorem readsOnly_throw (stop : Stop) : (throw stop : Job α).ReadsOnly :=
  readsOnly_of_run (fun _ => .error stop) (fun _ => []) fun _ printed => by simp

theorem readsOnly_print (line : Text) : (print line).ReadsOnly :=
  readsOnly_of_run (fun _ => .ok ()) (fun _ => [line]) fun _ printed => by simp

theorem readsOnly_tree : Job.tree.ReadsOnly :=
  readsOnly_of_run .ok (fun _ => []) fun _ printed => by simp

theorem readsOnly_orFail (failure : ε → Failure) (x : Except ε α) :
    (orFail failure x).ReadsOnly :=
  readsOnly_of_run (fun _ => x.mapError fun e => .failed (failure e)) (fun _ => [])
    fun _ printed => by simp

/-- What two jobs that only read give and print, one after the other. -/
theorem ReadsOnly.run_bind (h : job.ReadsOnly) (hnext : ∀ a, (next a).ReadsOnly)
    (tree : FileTree) (printed : List Text) :
    (job >>= next).run ⟨tree, printed⟩ =
      (job.answer tree >>= fun a => (next a).answer tree,
        ⟨tree, printed ++ (job.lines tree ++
          match job.answer tree with
          | .ok a => (next a).lines tree
          | .error _ => [])⟩) := by
  -- What the first job printed stands in front of what the second one prints.
  cases hanswer : job.answer tree with
  | error stop =>
    have hjob := h tree printed
    rw [hanswer] at hjob
    rw [run_bind_error hjob]
    simp
  | ok a =>
    have hjob := h tree printed
    rw [hanswer] at hjob
    rw [run_bind_ok hjob, hnext a tree]
    simp

/-- Reading after reading is reading only. -/
theorem ReadsOnly.bind (h : job.ReadsOnly) (hnext : ∀ a, (next a).ReadsOnly) :
    (job >>= next).ReadsOnly :=
  readsOnly_of_run _ _ (h.run_bind hnext)

/-- What two jobs that only read give together. -/
theorem ReadsOnly.answer_bind (h : job.ReadsOnly) (hnext : ∀ a, (next a).ReadsOnly)
    (tree : FileTree) :
    (job >>= next).answer tree = job.answer tree >>= fun a => (next a).answer tree := by
  rw [answer, h.run_bind hnext]

/-- A job after one that only reads. -/
theorem ReadsOnly.run_bind_ok {a : α} (h : job.ReadsOnly) (hanswer : job.answer tree = .ok a) :
    (job >>= next).run ⟨tree, printed⟩ = (next a).run ⟨tree, printed ++ job.lines tree⟩ :=
  Job.run_bind_ok (by rw [h tree printed, hanswer])

/-- A job after one that only reads and stops. -/
theorem ReadsOnly.run_bind_error {stop : Stop} (h : job.ReadsOnly)
    (hanswer : job.answer tree = .error stop) :
    (job >>= next).run ⟨tree, printed⟩ = (.error stop, ⟨tree, printed ++ job.lines tree⟩) :=
  Job.run_bind_error (by rw [h tree printed, hanswer])

/-! ## Steps on two trees -/

variable {tree' : FileTree}

/-- The job changes no file, and on two trees it gives and prints the same. -/
def Alike (job : Job α) (tree tree' : FileTree) : Prop :=
  ∃ (result : Except Stop α) (lines : List Text), ∀ printed,
    job.run ⟨tree, printed⟩ = (result, ⟨tree, printed ++ lines⟩) ∧
      job.run ⟨tree', printed⟩ = (result, ⟨tree', printed ++ lines⟩)

namespace Alike

theorem answer (h : job.Alike tree tree') : job.answer tree' = job.answer tree := by
  obtain ⟨result, lines, hrun⟩ := h
  rw [Job.answer, Job.answer, (hrun []).1, (hrun []).2]

theorem lines (h : job.Alike tree tree') : job.lines tree' = job.lines tree := by
  obtain ⟨result, lines, hrun⟩ := h
  rw [Job.lines, Job.lines, (hrun []).1, (hrun []).2]

theorem pure (a : α) (tree tree' : FileTree) : (Pure.pure a : Job α).Alike tree tree' :=
  ⟨.ok a, [], fun printed => by simp⟩

theorem throw (stop : Stop) (tree tree' : FileTree) :
    (MonadExcept.throw stop : Job α).Alike tree tree' :=
  ⟨.error stop, [], fun printed => by simp⟩

theorem print (line : Text) (tree tree' : FileTree) : (Job.print line).Alike tree tree' :=
  ⟨.ok (), [line], fun printed => by simp⟩

theorem orFail (failure : ε → Failure) (x : Except ε α) (tree tree' : FileTree) :
    (Job.orFail failure x).Alike tree tree' :=
  ⟨x.mapError fun e => .failed (failure e), [], fun printed => by simp⟩

/-- A step that looks at one path. -/
theorem has {path : Path} (h : tree'.look path = tree.look path) :
    (Job.has path).Alike tree tree' := by
  have hhas : tree'.has path = tree.has path := by rw [FileTree.has, FileTree.has, h]
  exact ⟨(tree.has path).mapError fun e => .failed (.file e), [], fun printed => by simp [hhas]⟩

/-- A step that is given the files. -/
theorem tree_bind {next : FileTree → Job β} (hnext : next tree' = next tree)
    (h : (next tree).Alike tree tree') : (Job.tree >>= next).Alike tree tree' := by
  obtain ⟨result, lines, hrun⟩ := h
  refine ⟨result, lines, fun printed => ?_⟩
  rw [run_bind_ok (run_tree _), run_bind_ok (run_tree _), hnext]
  exact hrun printed

/-- Steps one after the other. -/
theorem bind (h : job.Alike tree tree')
    (hnext : ∀ a, job.answer tree = .ok a → (next a).Alike tree tree') :
    (job >>= next).Alike tree tree' := by
  obtain ⟨result, lines, hrun⟩ := h
  have hanswer : job.answer tree = result := by rw [Job.answer, (hrun []).1]
  cases result with
  | error stop =>
    refine ⟨.error stop, lines, fun printed => ?_⟩
    rw [run_bind_error (hrun printed).1, run_bind_error (hrun printed).2]
    exact ⟨rfl, rfl⟩
  | ok a =>
    -- What the second step prints stands behind what the first one does.
    obtain ⟨result, others, hothers⟩ := hnext a hanswer
    refine ⟨result, lines ++ others, fun printed => ?_⟩
    rw [run_bind_ok (hrun printed).1, run_bind_ok (hrun printed).2, ← List.append_assoc]
    exact hothers (printed ++ lines)

end Alike

end Job

end ClassScope.Command
