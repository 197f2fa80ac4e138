import ClassScope.Proofs.Build.Names
import ClassScope.Proofs.Naming.Markup
import ClassScope.Proofs.Naming.ScriptNames
import ClassScope.Proofs.Naming.Stylesheet

/-!
# Where the names of a build come from

A build should not take a name that it has put in scope for a new one, so every name it enters
should stand in a source. Only the later passes over a script can break this, since they run on what
an earlier one left. In a scope without quotes they do so where a script calls a class list method
with, or looks up as an id, a literal that is a class selector. Main statement: `Build.names_occur`.
-/

namespace ClassScope.Build

variable {scope : Setting} {config : Config} {modules : List (Text × Text)} {html name : Text}
  {manifest : Manifest}

/-- The text stands in the code of a module or in the markup. -/
def Occurs (modules : List (Text × Text)) (html text : Text) : Prop :=
  (∃ module ∈ modules, text <:+: module.2) ∨ text <:+: html

instance (modules : List (Text × Text)) (html text : Text) : Decidable (Occurs modules html text) :=
  inferInstanceAs (Decidable ((∃ module ∈ modules, _) ∨ _))

/-- What is found in the scripts among the modules. -/
def inScripts (modules : List (Text × Text)) (found : Text → List Text) : List Text :=
  (modules.filter fun module => ModuleKind.ofName module.1 = .script).flatMap fun module =>
    found module.2

theorem mem_inScripts {found : Text → List Text} :
    name ∈ inScripts modules found ↔
      ∃ module ∈ modules, ModuleKind.ofName module.1 = .script ∧ name ∈ found module.2 := by
  simp [inScripts, and_assoc]

/-- The selectors that the scripts among the modules call a class list method with or look up as an
id, in the scope. -/
def calledSelectors (scope : Setting) (modules : List (Text × Text)) : List Text :=
  inScripts modules fun code =>
    (Script.calledNames scope code).map (Script.selectorInScope scope)

/-- A name that is captured stands in a source, unless a later pass over a script finds it. -/
theorem occurs_or_later_of_mem_capturedNames (h : name ∈ capturedNames scope modules html) :
    Occurs modules html name ∨ name ∈ inScripts modules (Script.laterNames scope) := by
  rcases List.mem_append.1 h with hmodule | hmarkup
  · obtain ⟨module, hmem, hname⟩ := List.mem_flatMap.1 hmodule
    cases hkind : ModuleKind.ofName module.1 with
    | script =>
      rw [hkind] at hname
      rcases Script.mem_names_iff.1 hname with hselector | hlater
      · exact .inl (.inl ⟨module, hmem, Script.infix_of_mem_selectorNames hselector⟩)
      · exact .inr (mem_inScripts.2 ⟨module, hmem, hkind, hlater⟩)
    | style =>
      rw [hkind] at hname
      exact .inl (.inl ⟨module, hmem, Stylesheet.infix_of_mem_find hname⟩)
    | other =>
      rw [hkind] at hname
      cases hname
  · exact .inl (.inr (Markup.infix_of_mem_names hmarkup))

/-- What a later pass over a script finds is captured. -/
theorem mem_capturedNames_of_later
    (h : name ∈ inScripts modules (Script.laterNames scope)) :
    name ∈ capturedNames scope modules html := by
  obtain ⟨module, hmem, hkind, hlater⟩ := mem_inScripts.1 h
  refine List.mem_append_left _ (List.mem_flatMap.2 ⟨module, hmem, ?_⟩)
  rw [hkind]
  exact Script.mem_names_iff.2 (.inr hlater)

/-- In a scope without quotes, what the later passes find stands in the sources exactly if that
holds of the selectors that are called. -/
theorem later_occur_iff (hscope : scope.asText.Unquoted) :
    (∀ name ∈ inScripts modules (Script.laterNames scope), Occurs modules html name) ↔
      ∀ selector ∈ calledSelectors scope modules, Occurs modules html selector := by
  constructor
  · intro hlater selector hselector
    obtain ⟨module, hmem, hkind, hfound⟩ := mem_inScripts.1 hselector
    obtain ⟨called, hcalled, rfl⟩ := List.mem_map.1 hfound
    exact hlater _ (mem_inScripts.2
      ⟨module, hmem, hkind, Script.mem_laterNames_of_called hscope hcalled⟩)
  · intro hselectors name hname
    obtain ⟨module, hmem, hkind, hlater⟩ := mem_inScripts.1 hname
    rcases Script.infix_or_called_of_mem_laterNames hscope hlater with
      hstands | ⟨called, hcalled, rfl⟩
    · exact .inl ⟨module, hmem, hstands⟩
    · exact hselectors _ (mem_inScripts.2
        ⟨module, hmem, hkind, List.mem_map_of_mem hcalled⟩)

/-- The names that a build has entered stand in its sources exactly if that holds of the names that
the later passes over its scripts find. In a scope without quotes this comes down to the selectors,
in the scope, that the scripts call a class list method with or look up as an id. -/
theorem names_occur (henabled : config.enabled = true) (modules : List (Text × Text)) (html : Text)
    (manifest : Manifest) :
    (config.NamesPreview → ∃ build, run config modules html manifest = .ok build) ∧
      ∀ build, run config modules html manifest = .ok build →
        ((∀ name ∈ build.session.registry.names, Occurs modules html name) ↔
          ∀ name ∈ inScripts modules (Script.laterNames config.scope),
            Occurs modules html name) ∧
        (config.scope.asText.Unquoted →
          ((∀ name ∈ build.session.registry.names, Occurs modules html name) ↔
            ∀ selector ∈ calledSelectors config.scope modules,
              Occurs modules html selector)) := by
  refine ⟨fun hpreview => exists_run hpreview modules html manifest, fun build hbuild => ?_⟩
  have hnames : ∀ name, name ∈ build.session.registry.names ↔
      name ∈ capturedNames config.scope modules html := fun name => by
    rw [names_of_run henabled hbuild, List.mem_eraseDups]
  have hlater : (∀ name ∈ build.session.registry.names, Occurs modules html name) ↔
      ∀ name ∈ inScripts modules (Script.laterNames config.scope), Occurs modules html name := by
    constructor
    · intro hoccur name hname
      exact hoccur name ((hnames name).2 (mem_capturedNames_of_later hname))
    · intro hoccur name hname
      exact (occurs_or_later_of_mem_capturedNames ((hnames name).1 hname)).elim id (hoccur name)
  exact ⟨hlater, fun hscope => hlater.trans (later_occur_iff hscope)⟩

/-- A lookup of a selector as an id: its id has no hyphen, but once the first pass has put it in the
scope it has one, and the third pass takes the selector for a name. -/
theorem names_occur_lookup_of_selector :
    let script : Text × Text := (Text.of "a.js", Text.of "getElementById('.a')")
    ({} : Config).enabled = true ∧ ({} : Config).NamesPreview ∧
      ({} : Config).scope.asText.Unquoted ∧
      ∃ build, run {} [script] [] [] = .ok build ∧
        build.modules = [(script.1, Text.of "querySelector('.dwp-.dwp-a')")] ∧
        ¬ ∀ name ∈ build.session.registry.names, Occurs [script] [] name := by
  intro script
  have henabled : ({} : Config).enabled = true := by cbv
  have hpreview : ({} : Config).NamesPreview := ⟨⟨_, rfl⟩, ⟨_, rfl⟩⟩
  have hscope : ({} : Config).scope.asText.Unquoted := by decide +kernel
  obtain ⟨hexists, hoccur⟩ := names_occur henabled [script] [] []
  obtain ⟨build, hbuild⟩ := hexists hpreview
  refine ⟨henabled, hpreview, hscope, build, hbuild, ?_, ?_⟩
  · rw [(of_run hbuild).1]
    decide +kernel
  · rw [(hoccur build hbuild).2 hscope]
    decide +kernel

end ClassScope.Build
