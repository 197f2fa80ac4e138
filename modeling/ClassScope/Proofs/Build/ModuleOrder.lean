import ClassScope.Proofs.Build.Session

/-!
# The order of modules

All passes of a build share one registry, yet no module and no markup sees what was transformed
before it. Main statement: `Build.run_perm`, on builds of the same modules in two orders.
-/

namespace ClassScope.Build

/-- Two builds that differ at most in the order of their modules and of the names they met. -/
structure Alike (build other : Build) : Prop where
  /-- The same modules come out, with the same code. -/
  modules : build.modules.Perm other.modules
  /-- The markup is the same. -/
  html : build.html = other.html
  /-- The sessions have come equally far. -/
  phase : build.session.phase = other.session.phase
  /-- As many modules of each kind were transformed. -/
  tally : build.session.tally = other.session.tally
  /-- The same names were met and have the same full names. -/
  entries : build.session.registry.entries.Perm other.session.registry.entries

/-- Two builds that are alike, or that fail in the same way. -/
inductive AlikeResults : (result other : Except Failure Build) → Prop where
  /-- Both give a build. -/
  | built {build other : Build} (alike : Alike build other) : AlikeResults (.ok build) (.ok other)
  /-- Both fail. -/
  | failed (e : Failure) : AlikeResults (.error e) (.error e)

variable {modules others : List (Text × Text)}

/-- Two modules are counted in either order. -/
theorem count_comm (config : Config) (tally : Tally) (module other : Text × Text) :
    config.count (config.count tally module) other =
      config.count (config.count tally other) module := by
  unfold Config.count
  -- Each module adds to one counter only.
  cases config.kindOf module.1 <;> cases config.kindOf other.1 <;> rfl

/-- The tally at the end does not depend on the order of the modules. -/
theorem tally_finalSession_perm (config : Config) (html : Text) (manifest : Manifest)
    (h : modules.Perm others) :
    (finalSession config modules html manifest).tally =
      (finalSession config others html manifest).tally :=
  h.foldl_eq' (fun module _ other _ tally => count_comm config tally module other) {}

theorem valid_finalSession (config : Config) (modules : List (Text × Text)) (html : Text)
    (manifest : Manifest) : (finalSession config modules html manifest).registry.Valid :=
  Registry.valid_enter (Registry.valid_empty _) _

/-- The entries at the end do not depend on the order of the modules, but for their own order. -/
theorem entries_finalSession_perm (config : Config) (html : Text) (manifest : Manifest)
    (h : modules.Perm others) :
    (finalSession config modules html manifest).registry.entries.Perm
      (finalSession config others html manifest).registry.entries := by
  -- A valid registry is known from its scope and names, so only membership is left to compare.
  refine Registry.entries_enter_perm (Registry.valid_empty _) fun name => ?_
  simp only [List.mem_append, List.mem_flatMap, h.mem_iff]

/-- The order of the modules does not matter to a build: it fails in the same way, or gives the same
modules, markup, phase, tally and names. The code of a module comes from its own name and code and
from the configuration, and the markup from the configuration and what is given with it, whatever
was transformed before. -/
theorem run_perm (config : Config) (html : Text) (manifest : Manifest)
    (h : modules.Perm others) :
    AlikeResults (run config modules html manifest) (run config others html manifest) ∧
      ∀ build, run config modules html manifest = .ok build →
        build.modules =
            modules.map (fun module => (module.1, config.moduleText module.1 module.2)) ∧
          config.finishedMarkup manifest html = .ok build.html := by
  -- Whether the markup can be finished does not depend on the modules at all.
  rw [run_eq, run_eq]
  cases config.finishedMarkup manifest html with
  | error e =>
    refine ⟨.failed _, ?_⟩
    intro build hbuild
    cases hbuild
  | ok finished =>
    refine ⟨.built ?_, ?_⟩
    · exact {
        modules := h.map _
        html := rfl
        phase := rfl
        tally := tally_finalSession_perm config html manifest h
        entries := entries_finalSession_perm config html manifest h }
    · intro build hbuild
      cases hbuild
      exact ⟨rfl, rfl⟩

/-- A stylesheet and a script that share a name may change places. -/
theorem run_perm_sheet_and_script :
    let sheet : Text × Text := (Text.of "a.css", Text.of ".x{} .y{}")
    let script : Text × Text := (Text.of "b.js", Text.of "$('.y'); el.classList.add('z')")
    [sheet, script].Perm [script, sheet] ∧
      AlikeResults (run {} [sheet, script] [] []) (run {} [script, sheet] [] []) := by
  intro sheet script
  have h : [sheet, script].Perm [script, sheet] := List.Perm.swap script sheet []
  exact ⟨h, (run_perm {} [] [] h).1⟩

end ClassScope.Build
