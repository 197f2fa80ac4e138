import ClassScope.Proofs.Build.Calls

/-!
# The class map

What names a session has met, and in what order. Main statement: `Session.classMap_in_order`.
-/

namespace ClassScope

namespace Session

/-- The names of a session are entered once each, with the scope in front of them. -/
theorem full_of_mem_entries_after (config : Config) (calls : List Call) {entry : Text × Text}
    (h : entry ∈ ((start config).after calls).registry.entries) :
    entry.2 = config.scope.asText ++ entry.1 := by
  have hconsistent := consistent_after (consistent_start config) calls
  have hscope : ((start config).after calls).registry.scope = config.scope := by
    rw [hconsistent.scope, config_after (consistent_start config), config_start]
  rw [hconsistent.valid.full entry h, hscope, Registry.fullName]

/-- No call takes a name out of the class map, or moves one. -/
theorem entries_prefix_step {session : Session} (h : session.Consistent) (call : Call) :
    session.registry.entries <+: (session.step call).after.registry.entries := by
  obtain ⟨names, hnames⟩ := (effect_perform h call).registry_eq
  change session.registry.entries <+: (session.perform call).2.registry.entries
  rw [hnames]
  exact Registry.entries_prefix_enter session.registry names

end Session

namespace Build

variable {config : Config} {modules : List (Text × Text)} {html : Text} {manifest : Manifest}

/-- The names that the passes of a build capture where names are put in scope: those of the modules,
module by module, and then those of the markup. -/
def capturedNames (scope : Setting) (modules : List (Text × Text)) (html : Text) : List Text :=
  (modules.flatMap fun module => (ModuleKind.ofName module.1).names scope module.2) ++
    Markup.names html

/-- There is a build where the preview image is named by texts. -/
theorem exists_run (h : config.NamesPreview) (modules : List (Text × Text)) (html : Text)
    (manifest : Manifest) : ∃ build, run config modules html manifest = .ok build := by
  obtain ⟨finished, hfinished⟩ := Session.exists_finishedMarkup h manifest html
  rw [run_eq, hfinished]
  exact ⟨_, rfl⟩

/-- At the end of a build each captured name has been entered where it was captured first. -/
theorem names_of_run (henabled : config.enabled = true) {build : Build}
    (h : run config modules html manifest = .ok build) :
    build.session.registry.names = (capturedNames config.scope modules html).eraseDups := by
  obtain ⟨-, -, hsession⟩ := of_run h
  have hcaptured : (modules.flatMap fun module => config.moduleNames module.1 module.2) ++
      config.markupNames html = capturedNames config.scope modules html := by
    simp only [Config.moduleNames, Config.kindOf, Config.markupNames, henabled, if_true]
    rfl
  rw [hsession, finalSession, hcaptured, Registry.names_enter]
  simp [Registry.empty, Registry.names]

end Build

/-- Whatever is called, the class map of a session has no name twice, holds every name with the
scope in front of it, and stays the beginning of the class map after the next call. At the end of a
build that puts names in scope it holds what the passes captured, in the order of first
occurrence. -/
theorem Session.classMap_in_order (config : Config) :
    (∀ (calls : List Call) (call : Call),
      let session := (start config).after calls
      session.registry.names.Nodup ∧
        (∀ entry ∈ session.registry.entries, entry.2 = config.scope.asText ++ entry.1) ∧
        session.registry.entries <+: (session.step call).after.registry.entries) ∧
      (config.enabled = true → ∀ modules html manifest,
        (∀ build, Build.run config modules html manifest = .ok build →
          build.session.registry.names =
            (Build.capturedNames config.scope modules html).eraseDups) ∧
        (config.NamesPreview → ∃ build, Build.run config modules html manifest = .ok build)) := by
  refine ⟨?_, ?_⟩
  · intro calls call session
    have hconsistent := consistent_after (consistent_start config) calls
    exact ⟨hconsistent.valid.nodup, fun entry => full_of_mem_entries_after config calls,
      entries_prefix_step hconsistent call⟩
  · intro henabled modules html manifest
    exact ⟨fun build => Build.names_of_run henabled,
      fun hpreview => Build.exists_run hpreview modules html manifest⟩

/-- A script is read form by form and not from left to right, and a name that two forms or two
modules share comes once. -/
theorem Session.classMap_in_order_script_and_sheet :
    let script : Text × Text :=
      (Text.of "b.js", Text.of "byId.classList.add('z'); $('.y'); getElementById('x-y')")
    let sheet : Text × Text := (Text.of "a.css", Text.of ".z{} .w{}")
    ({} : Config).enabled = true ∧ ({} : Config).NamesPreview ∧
      ∃ build, Build.run {} [script, sheet] (Text.of "<p class=\"w v\">") [] = .ok build ∧
        build.session.registry.names =
          [Text.of "y", Text.of "z", Text.of "x-y", Text.of "w", Text.of "v"] := by
  intro script sheet
  have henabled : ({} : Config).enabled = true := by cbv
  have hpreview : ({} : Config).NamesPreview := ⟨⟨_, rfl⟩, ⟨_, rfl⟩⟩
  have h := (classMap_in_order {}).2 henabled [script, sheet] (Text.of "<p class=\"w v\">") []
  obtain ⟨build, hbuild⟩ := h.2 hpreview
  refine ⟨henabled, hpreview, build, hbuild, ?_⟩
  rw [h.1 build hbuild]
  decide +kernel

end ClassScope
