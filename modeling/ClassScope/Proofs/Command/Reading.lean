import ClassScope.Command.Build
import ClassScope.Proofs.Build.Session
import ClassScope.Proofs.Command.Run
import ClassScope.Proofs.File.Access

/-!
# Reading configurations and manifests

The parts of a command that come before and between its writing only read. What is read at the end
of a path depends on what is seen there. Main statements:

- `readsOnly_readConfig`, `readsOnly_locateManifest`, `readsOnly_readManifest`: these steps only
  read;
- `namesPreview_of_readConfig`: the settings that a command line cannot give are texts;
- `alike_locateManifest_bind`, `alike_readManifest`: where two trees show the same, the same
  manifest is found and read.
-/

namespace ClassScope.Command

variable {tree tree' : FileTree}

/-! ## Configurations -/

theorem readsOnly_readEnvironment (environment : Environment) (envFile : Option Text) :
    (readEnvironment environment envFile).ReadsOnly := by
  unfold readEnvironment
  split
  · split
    · exact Job.readsOnly_pure _
    · refine Job.readsOnly_tree.bind fun tree => ?_
      split
      · exact Job.readsOnly_throw _
      · split
        · exact Job.readsOnly_pure _
        · exact (Job.readsOnly_orFail _ _).bind fun _ => Job.readsOnly_orFail _ _
      · exact Job.readsOnly_pure _
  · exact Job.readsOnly_pure _

theorem readsOnly_readConfig (environment : Environment) (envFile : Option Text)
    (overrides : Config.Overrides) : (readConfig environment envFile overrides).ReadsOnly :=
  (readsOnly_readEnvironment environment envFile).bind fun _ => Job.readsOnly_pure _

/-- A configuration names the preview image by texts, unless it is told otherwise. -/
theorem namesPreview_of_readConfig {environment : Environment} {envFile : Option Text}
    {overrides : Config.Overrides} {config : Config} (hmarker : overrides.previewMarker = none)
    (hpath : overrides.previewPath = none)
    (h : (readConfig environment envFile overrides).answer tree = .ok config) :
    config.NamesPreview := by
  rw [readConfig, (readsOnly_readEnvironment environment envFile).answer_bind
    fun _ => Job.readsOnly_pure _] at h
  -- Environment variables are texts, so only an override could be something else.
  obtain ⟨environment', -, h⟩ := bind_eq_ok.1 h
  cases h
  constructor
  · exact ⟨_, by rw [Config.override, hmarker]; rfl⟩
  · exact ⟨_, by rw [Config.override, hpath]; rfl⟩

theorem readsOnly_printAll (lines : List Text) : (lines.forM Job.print).ReadsOnly := by
  induction lines with
  | nil => exact Job.readsOnly_pure _
  | cons line lines ih => exact (Job.readsOnly_print line).bind fun _ => ih

theorem answer_printAll (lines : List Text) (tree : FileTree) :
    (lines.forM Job.print).answer tree = .ok () := by
  induction lines with
  | nil => rfl
  | cons line lines ih =>
    exact ((Job.readsOnly_print line).answer_bind (fun _ => readsOnly_printAll lines) tree).trans ih

theorem readsOnly_has (path : Path) : (Job.has path).ReadsOnly :=
  Job.readsOnly_tree.bind fun _ => Job.readsOnly_orFail _ _

/-! ## Manifests -/

/-- The manifest of a build directory: the one that is given, or the one that is found. -/
def manifestOf (root : Path) (given : Option Text) : Job Manifest :=
  locateManifest root given >>= readManifest

theorem readsOnly_firstStanding (paths : List Path) : (firstStanding paths).ReadsOnly := by
  induction paths with
  | nil => exact Job.readsOnly_pure _
  | cons path paths ih =>
    refine (readsOnly_has path).bind fun standing => ?_
    split
    · exact Job.readsOnly_pure _
    · exact ih

theorem readsOnly_locateManifest (root : Path) (given : Option Text) :
    (locateManifest root given).ReadsOnly := by
  unfold locateManifest
  split
  · exact Job.readsOnly_pure _
  · exact readsOnly_firstStanding _

theorem readsOnly_readDocument (tree : FileTree) (path : Path) :
    (readDocument tree path).ReadsOnly := by
  unfold readDocument
  split
  · exact Job.readsOnly_pure _
  · split
    · exact Job.readsOnly_pure _
    · dsimp only
      split
      · exact Job.readsOnly_pure _
      · split
        · exact Job.readsOnly_throw _
        · exact Job.readsOnly_pure _

theorem readsOnly_readManifest (path : Option Path) : (readManifest path).ReadsOnly := by
  unfold readManifest
  split
  · exact Job.readsOnly_pure _
  · rename_i path
    refine (readsOnly_has path).bind fun standing => ?_
    split
    · refine Job.readsOnly_tree.bind fun tree => ?_
      refine (readsOnly_readDocument tree path).bind fun document => ?_
      split
      · exact Job.readsOnly_orFail _ _
      · exact (Job.readsOnly_print _).bind fun _ => Job.readsOnly_pure _
    · exact (Job.readsOnly_print _).bind fun _ => Job.readsOnly_pure _

theorem alike_readDocument (files : FileTree) (path : Path) (tree tree' : FileTree) :
    (readDocument files path).Alike tree tree' := by
  unfold readDocument
  split
  · exact .pure _ _ _
  · split
    · exact .pure _ _ _
    · dsimp only
      split
      · exact .pure _ _ _
      · split
        · exact .throw _ _ _
        · exact .pure _ _ _

/-- The same manifest is read from a path at whose end the same is seen. -/
theorem alike_readManifest {path : Path} (h : tree'.look path = tree.look path) :
    (readManifest (some path)).Alike tree tree' := by
  unfold readManifest
  refine Job.Alike.bind (.has h) fun standing hstanding => ?_
  split
  · -- Something stands there, so the bytes that are read are known from what is seen.
    have hhas : tree.has path = .ok true := by
      rw [Job.answer_has, mapError_eq_ok] at hstanding
      rwa [‹standing = true›] at hstanding
    have hread := FileTree.read_congr hhas h
    refine .tree_bind (by rw [readDocument, readDocument, hread]) ?_
    refine (alike_readDocument tree path tree tree').bind fun document _ => ?_
    split
    · exact .orFail _ _ _ _
    · exact Job.Alike.bind (.print _ _ _) fun _ _ => .pure _ _ _
  · exact Job.Alike.bind (.print _ _ _) fun _ _ => .pure _ _ _

/-- The same path is found in trees in which the same is seen at the ends of all. -/
theorem alike_firstStanding {paths : List Path}
    (h : ∀ path ∈ paths, tree'.look path = tree.look path) :
    (firstStanding paths).Alike tree tree' := by
  induction paths with
  | nil => exact .pure _ _ _
  | cons path paths ih =>
    obtain ⟨hpath, hpaths⟩ := List.forall_mem_cons.1 h
    unfold firstStanding
    refine Job.Alike.bind (.has hpath) fun standing _ => ?_
    split
    · exact .pure _ _ _
    · exact ih hpaths

/-- The path that is found is one of those that are looked at. -/
theorem mem_of_firstStanding {paths : List Path} {path : Path}
    (h : (firstStanding paths).answer tree = .ok (some path)) : path ∈ paths := by
  induction paths with
  | nil => cases h
  | cons first paths ih =>
    simp only [Job.answer, firstStanding, Job.run_bind, Job.run_has] at h ih
    cases hhas : tree.has first with
    | error e =>
      rw [hhas] at h
      cases h
    | ok standing =>
      rw [hhas] at h
      cases standing with
      | true =>
        cases h
        exact List.mem_cons_self
      | false => exact List.mem_cons_of_mem _ (ih h)

/-- Where the same is seen at the end of the path that is given, or else of the paths where a
manifest is looked for, the same path is found, and what follows sees the same at its end. -/
theorem alike_locateManifest_bind {α : Type} {root : Path} {given : Option Text}
    {next : Option Path → Job α}
    (hgiven : ∀ path, path? given = some path → tree'.look path = tree.look path)
    (hfound : path? given = none →
      ∀ path ∈ manifestPlaces.map root.join, tree'.look path = tree.look path)
    (hnone : (next none).Alike tree tree')
    (hsome : ∀ path, tree'.look path = tree.look path → (next (some path)).Alike tree tree') :
    (locateManifest root given >>= next).Alike tree tree' := by
  unfold locateManifest
  cases hpath : path? given with
  | some path =>
    -- A manifest that is given is read wherever it is, even if nothing stands there.
    refine Job.Alike.bind (.pure _ _ _) fun found hanswer => ?_
    cases hanswer
    exact hsome path (hgiven path hpath)
  | none =>
    refine (alike_firstStanding (hfound hpath)).bind fun found hanswer => ?_
    cases found with
    | none => exact hnone
    | some path => exact hsome path (hfound hpath path (mem_of_firstStanding hanswer))

end ClassScope.Command
