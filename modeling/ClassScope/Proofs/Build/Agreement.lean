import ClassScope.Proofs.Build.Session
import ClassScope.Proofs.Naming.Agreement

/-!
# One name throughout a build

A build of a stylesheet, two scripts and markup that share a class name. In a scope without quotes
all four get the same full name exactly if the name starts with a letter: the stylesheet and the
selector literal pass over a name that starts with a low line or a hyphen, and the other two do not.
Main statement: `Build.names_agree_iff`.
-/

namespace ClassScope.Build

open Registry (fullName)

variable {config : Config}

/-- Three modules with the same class name: a rule, a selector literal and a call that adds the
class. -/
def classModules (sheet literal call : Text) (q : Char) (name : Text) : List (Text × Text) :=
  [(sheet, Stylesheet.rule name), (literal, Script.literal q name), (call, Script.addCall name)]

/-- With nothing emitted, the markup is finished but for the naming script. -/
theorem finishedMarkup_of_no_manifest (henabled : config.enabled = true) (html : Text) :
    config.finishedMarkup [] html =
      .ok ((Session.start config).injectNaming
        (WideText.ofText (Markup.attributesInScope config.scope html))) := by
  rw [Config.finishedMarkup, if_pos henabled]
  rfl

variable {p name sheet literal call : Text} {q : Char}

/-- The rule, the literal and the call get the same full name exactly if the name is an identifier
and the later passes over the scripts find no name in what an earlier one leaves. -/
theorem moduleTexts_classModules_iff (hscope : config.scope.asText ≠ [])
    (henabled : config.enabled = true) (hname : IsClassName name) (hq : Text.isQuote q = true)
    (hsheet : ModuleKind.ofName sheet = .style) (hliteral : ModuleKind.ofName literal = .script)
    (hcall : ModuleKind.ofName call = .script) :
    config.moduleTexts (classModules sheet literal call q name) =
        classModules sheet literal call q (fullName config.scope name) ↔
      IsIdentifier name ∧ Script.Settled (Script.literal q (fullName config.scope name)) ∧
        Script.lookupNames (Script.addCall (fullName config.scope name)) = [] := by
  have htexts : config.moduleTexts (classModules sheet literal call q name) =
      [(sheet, Stylesheet.inScope config.scope (Stylesheet.rule name)),
        (literal, Script.inScope config.scope (Script.literal q name)),
        (call, Script.inScope config.scope (Script.addCall name))] := by
    simp [Config.moduleTexts, classModules, Config.moduleText, Config.kindOf, henabled, hsheet,
      hliteral, hcall, ModuleKind.inScope]
  rw [htexts]
  simp only [classModules, List.cons.injEq, Prod.mk.injEq, true_and, and_true]
  by_cases hidentifier : IsIdentifier name
  · rw [Script.inScope_literal_eq_iff hscope hq hidentifier,
      Script.inScope_addCall_eq_iff hscope hname, Stylesheet.inScope_rule hidentifier]
    simp [hidentifier]
  · -- The rule is kept, and the scope is missing in it.
    refine iff_of_false (fun h => ?_) fun h => hidentifier h.1
    rw [Stylesheet.inScope_rule_of_not_identifier hname.chars hidentifier] at h
    have hlength := congrArg List.length h.1
    have hpos := List.length_pos_iff.2 hscope
    simp only [Stylesheet.rule, fullName, List.length_cons, List.length_append] at hlength
    omega

/-- In production with a scope that is not empty, the class attribute always gets the full name. The
rule, the selector literal and the call get it as well exactly if the name starts with a letter and
no part of the scope is taken for a call with a name; a scope without quotes is never taken for
one. -/
theorem names_agree_iff (hscope : config.scope = .text p) (hp : p ≠ [])
    (hmode : config.mode = .text Config.production) (hname : IsClassName name)
    (hq : Text.isQuote q = true) (hsheet : ModuleKind.ofName sheet = .style)
    (hliteral : ModuleKind.ofName literal = .script)
    (hcall : ModuleKind.ofName call = .script) :
    ∃ build, run config (classModules sheet literal call q name)
        (Markup.writeClassAttribute name) [] = .ok build ∧
      build.html = (Session.start config).injectNaming
        (WideText.ofText (Markup.writeClassAttribute (p ++ name))) ∧
      (build.modules = classModules sheet literal call q (p ++ name) ↔
        IsIdentifier name ∧ Script.Settled (Script.literal q (p ++ name)) ∧
          Script.lookupNames (Script.addCall (p ++ name)) = []) ∧
      (p.Unquoted → Script.Settled (Script.literal q (p ++ name)) ∧
        Script.lookupNames (Script.addCall (p ++ name)) = []) := by
  have htext : config.scope.asText = p := by rw [hscope]; rfl
  have hfull : fullName config.scope name = p ++ name := by rw [fullName, htext]
  have henabled : config.enabled = true := by
    simp [Config.enabled, hmode, hscope, Setting.isTrue, hp]
  have hmarkup := finishedMarkup_of_no_manifest henabled (Markup.writeClassAttribute name)
  rw [Markup.attributesInScope_class hname.ne_nil hname.chars, hfull] at hmarkup
  refine ⟨_, by rw [run_eq, hmarkup], rfl, ?_, ?_⟩
  · rw [← hfull]
    exact moduleTexts_classModules_iff (htext ▸ hp) henabled hname hq hsheet hliteral hcall
  · intro hunquoted
    rw [← hfull]
    rw [← htext] at hunquoted
    exact ⟨Script.settled_literal hunquoted hq hname,
      Script.lookupNames_addCall hunquoted hname⟩

/-- A class whose name starts with a low line gets its full name in the call and in the markup, but
not in the rule and in the literal. -/
theorem names_agree_low_line :
    let modules := classModules (Text.of "a.css") (Text.of "b.js") (Text.of "c.js") '\x27'
    IsClassName ['_', 'x'] ∧
      ∃ build, run {} (modules ['_', 'x']) (Markup.writeClassAttribute ['_', 'x']) [] = .ok build ∧
        build.modules ≠ modules (Config.defaultScope ++ ['_', 'x']) ∧
        build.modules =
          [(Text.of "a.css", Stylesheet.rule ['_', 'x']),
            (Text.of "b.js", Script.literal '\x27' ['_', 'x']),
            (Text.of "c.js", Script.addCall (Config.defaultScope ++ ['_', 'x']))] := by
  intro modules
  have hname : IsClassName ['_', 'x'] := by decide
  have hscope : Config.defaultScope ≠ [] := by decide +kernel
  have hidentifier : ¬ IsIdentifier ['_', 'x'] := by
    rintro ⟨letter, -⟩
    revert letter
    decide
  obtain ⟨build, hbuild, -, hagree, -⟩ :=
    @names_agree_iff {} Config.defaultScope ['_', 'x'] (Text.of "a.css") (Text.of "b.js")
      (Text.of "c.js") '\x27' rfl hscope rfl hname rfl (by decide +kernel) (by decide +kernel)
      (by decide +kernel)
  refine ⟨hname, build, hbuild, fun h => hidentifier (hagree.1 h).1, ?_⟩
  rw [(of_run hbuild).1]
  decide +kernel

end ClassScope.Build
