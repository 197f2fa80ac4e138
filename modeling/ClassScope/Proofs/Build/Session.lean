import ClassScope.Proofs.Naming.Passes
import ClassScope.Proofs.Outcome

/-!
# What sessions give

The hooks of a session thread one registry through all modules and the markup. As long as the
registry is valid and has the scope of the configuration (`Session.Consistent`), what a hook gives
depends on the configuration and its own arguments alone. Main statements:

- `Session.transform_eq`, `Session.transformAll_eq`: modules, one and several;
- `Session.finish_eq`: the markup;
- `Build.run_eq`: a whole build, with the session at its end written out.
-/

namespace ClassScope

namespace Config

variable (config : Config)

/-- What a module is taken for; all are passed through unless names are put in scope. -/
def kindOf (name : Text) : ModuleKind := if config.enabled then .ofName name else .other

/-- The code of a module after its pass. -/
def moduleText (name code : Text) : Text := (config.kindOf name).inScope config.scope code

/-- The names that the pass over a module looks up. -/
def moduleNames (name code : Text) : List Text := (config.kindOf name).names config.scope code

/-- The names that the pass over the markup looks up. -/
def markupNames (html : Text) : List Text := if config.enabled then Markup.names html else []

/-- The finished markup, given what the bundler emitted. -/
def finishedMarkup (manifest : Manifest) (html : Text) : Except Setting.Misuse WideText :=
  let session : Session := { Session.start config with manifest }
  if config.enabled then
    session.injectNaming <$>
      session.linkPreview (WideText.ofText (Markup.attributesInScope config.scope html))
  else .ok (WideText.ofText html)

theorem moduleText_of_disabled {config : Config} (h : ¬ config.enabled = true) (name code : Text) :
    config.moduleText name code = code := by
  rw [moduleText, kindOf, if_neg h]
  rfl

theorem finishedMarkup_of_disabled {config : Config} (h : ¬ config.enabled = true)
    (manifest : Manifest) (html : Text) :
    config.finishedMarkup manifest html = .ok (WideText.ofText html) := by
  rw [finishedMarkup, if_neg h]

/-- The modules with their code after the passes. -/
def moduleTexts (modules : List (Text × Text)) : List (Text × Text) :=
  modules.map fun (name, code) => (name, config.moduleText name code)

/-- The settings that say which image is the preview image are texts. -/
structure NamesPreview : Prop where
  /-- The marker is a text. -/
  marker : ∃ s, config.previewMarker = .text s
  /-- The address is a text. -/
  address : ∃ s, config.previewPath = .text s

/-- Counts a module. -/
def count (tally : Tally) (module : Text × Text) : Tally := (config.kindOf module.1).count tally

end Config

namespace Session

/-- The registry is valid and has the scope of the configuration. -/
structure Consistent (session : Session) : Prop where
  /-- The registry is valid. -/
  valid : session.registry.Valid
  /-- Names are looked up in the scope of the configuration. -/
  scope : session.registry.scope = session.config.scope

/-- The session after a module was transformed. -/
def afterModule (session : Session) (module : Text × Text) : Session :=
  { session with
    phase := .transforming
    registry := session.registry.enter (session.config.moduleNames module.1 module.2)
    tally := session.config.count session.tally module }

/-- The session after some modules were transformed. -/
def afterModules (session : Session) (modules : List (Text × Text)) : Session :=
  modules.foldl afterModule session

variable {session : Session}

@[simp]
theorem config_start (config : Config) : (start config).config = config := rfl

theorem consistent_start (config : Config) : (start config).Consistent :=
  ⟨Registry.valid_empty _, rfl⟩

/-- A session stays consistent when names are looked up, whatever else changes but the
configuration. -/
theorem Consistent.enter (h : session.Consistent) (names : List Text) {session' : Session}
    (hconfig : session'.config = session.config)
    (hregistry : session'.registry = session.registry.enter names) : session'.Consistent := by
  refine ⟨?_, ?_⟩
  · rw [hregistry]
    exact Registry.valid_enter h.valid names
  · rw [hregistry, hconfig, Registry.scope_enter, h.scope]

theorem Consistent.afterModule (h : session.Consistent) (module : Text × Text) :
    (session.afterModule module).Consistent :=
  h.enter _ rfl rfl

/-! ## Modules -/

theorem allowedIn_afterModule (session : Session) (module : Text × Text) :
    Hook.transform.allowedIn (session.afterModule module).phase = true := rfl

/-- A module that may be transformed comes out as if no other had been transformed before. -/
theorem transform_eq (h : session.Consistent)
    (hphase : Hook.transform.allowedIn session.phase = true) (name code : Text) :
    session.transform name code =
      .ok (session.config.moduleText name code, session.afterModule (name, code)) := by
  -- The pass gives the same on every valid registry of the scope.
  have hrename := ModuleKind.looksUp_rename session.config.scope (session.kindOf name) code
    session.registry h.valid h.scope
  rw [transform, require, if_pos hphase, ok_bind]
  simp only [hrename]
  rfl

/-- Modules come out each as if it was the only one. -/
theorem transformAll_eq (h : session.Consistent)
    (hphase : Hook.transform.allowedIn session.phase = true) (modules : List (Text × Text)) :
    session.transformAll modules =
      .ok (session.config.moduleTexts modules, session.afterModules modules) := by
  induction modules generalizing session with
  | nil => rfl
  | cons module modules ih =>
    obtain ⟨name, code⟩ := module
    -- The session after the first module is consistent again, so the others come out as if it was
    -- new.
    have hrest := ih (h.afterModule (name, code)) (allowedIn_afterModule session (name, code))
    rw [transformAll, transform_eq h hphase, ok_bind]
    dsimp only
    rw [hrest, ok_bind]
    rfl

@[simp]
theorem config_afterModules (session : Session) (modules : List (Text × Text)) :
    (session.afterModules modules).config = session.config := by
  induction modules generalizing session with
  | nil => rfl
  | cons module modules ih => exact ih (session.afterModule module)

/-- The names of the modules are looked up module by module. -/
theorem registry_afterModules (session : Session) (modules : List (Text × Text)) :
    (session.afterModules modules).registry =
      session.registry.enter
        (modules.flatMap fun module => session.config.moduleNames module.1 module.2) := by
  induction modules generalizing session with
  | nil => rfl
  | cons module modules ih =>
    -- The names of the first module come first.
    rw [List.flatMap_cons, Registry.enter_append]
    exact ih (session.afterModule module)

theorem tally_afterModules (session : Session) (modules : List (Text × Text)) :
    (session.afterModules modules).tally =
      modules.foldl session.config.count session.tally := by
  induction modules generalizing session with
  | nil => rfl
  | cons module modules ih => exact ih (session.afterModule module)

/-- After some modules the bundle may be marked as written. -/
theorem allowedIn_afterModules (session : Session)
    (hphase : Hook.transform.allowedIn session.phase = true) (modules : List (Text × Text)) :
    Hook.bundle.allowedIn (session.afterModules modules).phase = true := by
  induction modules generalizing session with
  | nil => exact hphase
  | cons module modules ih => exact ih _ (allowedIn_afterModule session module)

theorem Consistent.afterModules (h : session.Consistent) (modules : List (Text × Text)) :
    (session.afterModules modules).Consistent :=
  h.enter _ (config_afterModules session modules) (registry_afterModules session modules)

/-! ## The bundle and the markup -/

/-- Where the bundle may be marked as written, it is, and what was emitted is kept. -/
theorem bundle_eq (hphase : Hook.bundle.allowedIn session.phase = true) (manifest : Manifest) :
    session.bundle manifest = .ok { session with phase := .bundled, manifest } := by
  rw [bundle, require, if_pos hphase]
  rfl

/-- The markup can be finished where the preview image is named by texts. -/
theorem exists_finishedMarkup {config : Config} (h : config.NamesPreview) (manifest : Manifest)
    (html : Text) : ∃ finished, config.finishedMarkup manifest html = .ok finished := by
  obtain ⟨marker, hmarker⟩ := h.marker
  obtain ⟨address, haddress⟩ := h.address
  unfold Config.finishedMarkup
  dsimp only
  split
  · simp only [linkPreview, config_start, hmarker, haddress, Setting.demand, ok_bind]
    split
    · split <;> exact ⟨_, rfl⟩
    · exact ⟨_, rfl⟩
  · exact ⟨_, rfl⟩

/-- Finishing the markup looks up the names in class attributes and gives the finished markup. -/
theorem looksUp_finishMarkup (session : Session) (henabled : session.config.enabled = true)
    (html : Text) :
    (session.finishMarkup html).LooksUp session.config.scope (session.config.markupNames html)
      (session.config.finishedMarkup session.manifest html) := by
  rw [Config.markupNames, if_pos henabled, Config.finishedMarkup, if_pos henabled]
  exact (Markup.looksUp_renameAttributes session.config.scope html).map fun html =>
    session.injectNaming <$> session.linkPreview (WideText.ofText html)

/-- Once the bundle is written, the markup comes out as if no name had been met before. -/
theorem finish_eq (h : session.Consistent) (hphase : session.phase = .bundled) (html : Text) :
    session.finish html =
      .ok (session.config.finishedMarkup session.manifest html,
        { session with
          phase :=
            if (session.config.finishedMarkup session.manifest html).isOk then .done else .finishing
          registry := session.registry.enter (session.config.markupNames html) }) := by
  have hallowed : Hook.finish.allowedIn session.phase = true := by rw [hphase]; rfl
  rw [finish, require, if_pos hallowed, ok_bind]
  by_cases henabled : session.config.enabled = true
  · have hmarkup := looksUp_finishMarkup { session with phase := .finishing } henabled html
      session.registry h.valid h.scope
    simp only [enabled, henabled, if_true, hmarkup]
    rfl
  · rw [Config.markupNames, if_neg henabled, Config.finishedMarkup, if_neg henabled]
    simp only [enabled, henabled]
    rfl

end Session

/-! ## Whole builds -/

namespace Build

/-- The session at the end of a build. -/
def finalSession (config : Config) (modules : List (Text × Text)) (html : Text)
    (manifest : Manifest) : Session where
  phase := .done
  config := config
  registry := (Registry.empty config.scope).enter
    ((modules.flatMap fun module => config.moduleNames module.1 module.2) ++
      config.markupNames html)
  manifest := manifest
  tally := modules.foldl config.count {}

@[simp]
theorem enabled_finalSession (config : Config) (modules : List (Text × Text)) (html : Text)
    (manifest : Manifest) : (finalSession config modules html manifest).enabled = config.enabled :=
  rfl

/-- After all modules and the bundle, finishing the markup gives the session at the end, unless the
markup cannot be finished. -/
theorem finish_afterModules (config : Config) (modules : List (Text × Text)) (html : Text)
    (manifest : Manifest) :
    ({ (Session.start config).afterModules modules with
      phase := .bundled, manifest } : Session).finish html =
      .ok (config.finishedMarkup manifest html,
        { finalSession config modules html manifest with
          phase := if (config.finishedMarkup manifest html).isOk then .done else .finishing }) := by
  have hafter := (Session.consistent_start config).afterModules modules
  -- Marking the bundle keeps the registry and the configuration.
  have hbundled : ({ (Session.start config).afterModules modules with
      phase := .bundled, manifest } : Session).Consistent := ⟨hafter.valid, hafter.scope⟩
  rw [Session.finish_eq hbundled rfl html]
  simp only [Session.config_afterModules, Session.registry_afterModules,
    Session.tally_afterModules, Session.config_start, finalSession, Registry.enter_append]
  rfl

/-- A build fails exactly where its markup cannot be finished, and otherwise gives each module as if
it was the only one. -/
theorem run_eq (config : Config) (modules : List (Text × Text)) (html : Text)
    (manifest : Manifest) :
    run config modules html manifest =
      match config.finishedMarkup manifest html with
      | .ok finished =>
        .ok ⟨config.moduleTexts modules, finished, finalSession config modules html manifest⟩
      | .error e => .error (.setting e) := by
  have hmodules := Session.transformAll_eq (Session.consistent_start config) rfl modules
  have hbundle := Session.bundle_eq
    (Session.allowedIn_afterModules (Session.start config) rfl modules) manifest
  rw [run, hmodules, mapError_ok, ok_bind]
  dsimp only
  rw [hbundle, mapError_ok, ok_bind, finish_afterModules, mapError_ok, ok_bind,
    Session.config_start]
  dsimp only
  cases hmarkup : config.finishedMarkup manifest html with
  | error e => rfl
  | ok finished =>
    rw [mapError_ok, ok_bind]
    rfl

/-- What a build gives, part by part. -/
theorem of_run {config : Config} {modules : List (Text × Text)} {html : Text}
    {manifest : Manifest} {result : Build} (h : run config modules html manifest = .ok result) :
    result.modules = config.moduleTexts modules ∧
      config.finishedMarkup manifest html = .ok result.html ∧
        result.session = finalSession config modules html manifest := by
  rw [run_eq] at h
  split at h
  · rename_i finished hfinished
    cases h
    exact ⟨rfl, hfinished, rfl⟩
  · cases h

end Build

end ClassScope
