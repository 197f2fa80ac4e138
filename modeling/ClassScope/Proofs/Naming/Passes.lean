import ClassScope.Build.Session
import ClassScope.Proofs.Naming.Lookup

/-!
# Passes without a registry

Each naming pass is described by the text it gives in a scope and by the names it looks up, in their
order; neither depends on the names met before. The main statement of each pass is `looksUp_rename`,
or a lemma named alike. In a script the second and the third pass look at what the one before left,
so the names they find depend on the scope.
-/

namespace ClassScope

open Registry (fullName)

variable (scope : Setting)

namespace Stylesheet

/-- The stylesheet with every class selector in the scope. -/
def inScope (css : Text) : Text := selector.substitute (fun name => '.' :: fullName scope name) css

/-- The pass over a stylesheet looks the names of its selectors up. -/
theorem looksUp_rename (css : Text) :
    (rename css).LooksUp scope (selector.find css) (inScope scope css) := by
  have h : (rename css).LooksUp scope ((selector.find css).flatMap fun name => [name])
      (inScope scope css) :=
    Naming.LooksUp.rename selector
      (fun name => (Naming.LooksUp.resolve name).map ('.' :: ·)) css
  -- Every selector holds one name.
  rwa [← List.map_eq_flatMap, List.map_id'] at h

end Stylesheet

namespace Script

/-- The script with the names in selector literals in the scope. -/
def selectorsInScope (code : Text) : Text :=
  selectorLiteral.substitute
    (fun l => SelectorLiteral.write { l with name := fullName scope l.name }) code

/-- The script with the class names in class list calls in the scope, in single quotes. -/
def callsInScope (code : Text) : Text :=
  classListCall.substitute
    (fun call =>
      ClassListCall.write ⟨call.method, '\x27', fullName scope call.argument.value, '\x27'⟩) code

/-- What stands for a lookup by id: a class query in the scope if the id is hyphenated. -/
def lookupInScope (a : Argument) : Text :=
  if '-' ∈ a.value then Text.of "querySelector('." ++ fullName scope a.value ++ Text.of "')"
  else writeIdLookup a

/-- The script with lookups by a hyphenated id turned into class queries in the scope. -/
def lookupsInScope (code : Text) : Text := idLookup.substitute (lookupInScope scope) code

/-- The script with all its class names in the scope. -/
def inScope (code : Text) : Text :=
  lookupsInScope scope (callsInScope scope (selectorsInScope scope code))

/-- The names in the selector literals of a script. -/
def selectorNames (code : Text) : List Text :=
  (selectorLiteral.find code).map SelectorLiteral.name

/-- The names in the class list calls of a script. -/
def callNames (code : Text) : List Text :=
  (classListCall.find code).map fun call => call.argument.value

/-- The hyphenated ids that a script looks up. -/
def lookupNames (code : Text) : List Text :=
  ((idLookup.find code).map Argument.value).filter ('-' ∈ ·)

/-- The names that the three passes over a script find, each in what the one before left. -/
def names (code : Text) : List Text :=
  selectorNames code ++ (callNames (selectorsInScope scope code) ++
    lookupNames (callsInScope scope (selectorsInScope scope code)))

/-- The pass over selector literals looks their names up. -/
theorem looksUp_renameSelectors (code : Text) :
    (renameSelectors code).LooksUp scope (selectorNames code) (selectorsInScope scope code) := by
  have h : (renameSelectors code).LooksUp scope
      ((selectorLiteral.find code).flatMap fun l => [l.name]) (selectorsInScope scope code) :=
    Naming.LooksUp.rename selectorLiteral
      (fun l => (Naming.LooksUp.resolve l.name).map fun name =>
        SelectorLiteral.write { l with name }) code
  rwa [← List.map_eq_flatMap] at h

/-- The pass over class list calls looks their arguments up. -/
theorem looksUp_renameCalls (code : Text) :
    (renameCalls code).LooksUp scope (callNames code) (callsInScope scope code) := by
  have h : (renameCalls code).LooksUp scope
      ((classListCall.find code).flatMap fun call => [call.argument.value])
      (callsInScope scope code) :=
    Naming.LooksUp.rename classListCall
      (fun call => (Naming.LooksUp.resolve call.argument.value).map fun name =>
        ClassListCall.write ⟨call.method, '\x27', name, '\x27'⟩) code
  rwa [← List.map_eq_flatMap] at h

/-- The pass over lookups by id looks the hyphenated ids up. -/
theorem looksUp_renameLookups (code : Text) :
    (renameLookups code).LooksUp scope (lookupNames code) (lookupsInScope scope code) := by
  -- Ids without a hyphen are no class names and are not looked up.
  have hnames : lookupNames code = (idLookup.find code).flatMap fun a =>
      if '-' ∈ a.value then [a.value] else [] := by
    unfold lookupNames
    induction idLookup.find code with
    | nil => rfl
    | cons a as ih =>
      rw [List.map_cons, List.filter_cons, List.flatMap_cons, ih]
      by_cases hhyphen : '-' ∈ a.value <;> simp [hhyphen]
  rw [hnames]
  refine Naming.LooksUp.rename idLookup (fun a => ?_) code
  unfold lookupInScope
  split
  · exact (Naming.LooksUp.resolve a.value).map fun name =>
      Text.of "querySelector('." ++ name ++ Text.of "')"
  · exact Naming.LooksUp.pure _

/-- The three passes over a script look up what each of them finds. -/
theorem looksUp_rename (code : Text) :
    (rename code).LooksUp scope (names scope code) (inScope scope code) :=
  (looksUp_renameSelectors scope code).bind
    ((looksUp_renameCalls scope _).bind (looksUp_renameLookups scope _))

end Script

namespace Markup

/-- The markup with the names in class attributes in the scope, one space between neighbours. -/
def attributesInScope (html : Text) : Text :=
  classAttribute.substitute
    (fun value => writeClassAttribute (Text.join [' '] ((Text.words value).map (fullName scope))))
    html

/-- The names in the class attributes of some markup. -/
def names (html : Text) : List Text := (classAttribute.find html).flatMap Text.words

/-- The pass over class attributes looks the words of their values up. -/
theorem looksUp_renameAttributes (html : Text) :
    (renameAttributes html).LooksUp scope (names html) (attributesInScope scope html) := by
  -- A value is cut into words, and each of them is looked up.
  refine Naming.LooksUp.rename classAttribute (fun value => ?_) html
  have hwords : ((Text.words value).mapM Registry.resolve).LooksUp scope
      ((Text.words value).flatMap fun name => [name])
      ((Text.words value).map (fullName scope)) :=
    Naming.LooksUp.mapM Naming.LooksUp.resolve (Text.words value)
  rw [← List.map_eq_flatMap, List.map_id'] at hwords
  exact hwords.map fun names => writeClassAttribute (Text.join [' '] names)

end Markup

namespace ModuleKind

/-- The code of a module of a kind with its class names in the scope. -/
def inScope : ModuleKind → Text → Text
  | .script, code => Script.inScope scope code
  | .style, code => Stylesheet.inScope scope code
  | .other, code => code

/-- The names that the pass for modules of a kind looks up. -/
def names : ModuleKind → Text → List Text
  | .script, code => Script.names scope code
  | .style, code => Stylesheet.selector.find code
  | .other, _ => []

/-- The pass for modules of a kind. -/
theorem looksUp_rename (kind : ModuleKind) (code : Text) :
    (kind.rename code).LooksUp scope (kind.names scope code) (kind.inScope scope code) := by
  cases kind with
  | script => exact Script.looksUp_rename scope code
  | style => exact Stylesheet.looksUp_rename scope code
  | other => exact Naming.LooksUp.pure code

/-- No pass puts anything into an empty module. -/
theorem inScope_nil (kind : ModuleKind) : kind.inScope scope [] = [] := by
  cases kind with
  | script =>
    simp [inScope, Script.inScope, Script.lookupsInScope, Script.callsInScope,
      Script.selectorsInScope, Form.substitute]
  | style => simp [inScope, Stylesheet.inScope, Form.substitute]
  | other => rfl

end ModuleKind

end ClassScope
