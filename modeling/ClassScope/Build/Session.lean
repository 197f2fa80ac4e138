import ClassScope.Build.Config
import ClassScope.Naming.Markup
import ClassScope.Naming.Script
import ClassScope.Site.NamingScript
import ClassScope.Site.Preview

/-!
# Build sessions

The state of one build. The host of a build calls three hooks in this order: one transforms a
module, as often as there are modules; one marks the bundle as written; one finishes the markup,
once. All passes of a session share its registry, so that a name gets the same full name everywhere.
-/

namespace ClassScope

/-- How far a build has come. -/
inductive Phase where
  /-- Nothing has been done. -/
  | configuring
  /-- Modules are being transformed. -/
  | transforming
  /-- The bundle is written. -/
  | bundled
  /-- The markup is being finished. -/
  | finishing
  /-- All is done. -/
  | done
  deriving DecidableEq, Repr

/-- The name of a phase. -/
def Phase.word : Phase → String
  | .configuring => "configuring"
  | .transforming => "module-transforming"
  | .bundled => "bundled"
  | .finishing => "markup-post-processing"
  | .done => "done"

/-- The hooks of a session. -/
inductive Hook where
  /-- Transforms a module. -/
  | transform
  /-- Marks the bundle as written. -/
  | bundle
  /-- Finishes the markup. -/
  | finish
  deriving DecidableEq, Repr

/-- What a hook does, for messages. -/
def Hook.word : Hook → String
  | .transform => "transform a module"
  | .bundle => "mark the build bundled"
  | .finish => "finalize markup"

/-- The hook may be called in a phase. -/
def Hook.allowedIn : Hook → Phase → Bool
  | .transform, phase => phase == .configuring || phase == .transforming
  | .bundle, phase => phase == .configuring || phase == .transforming
  | .finish, phase => phase == .bundled

/-- A hook was called in a phase where it may not be. -/
structure OutOfOrder where
  /-- The hook. -/
  hook : Hook
  /-- The phase. -/
  phase : Phase
  deriving DecidableEq, Repr

/-- The wording of a call out of order. -/
def OutOfOrder.message (e : OutOfOrder) : String := s!"cannot {e.hook.word} while {e.phase.word}"

/-- How many modules were transformed, by kind. -/
structure Tally where
  /-- The scripts. -/
  scripts : Nat := 0
  /-- The stylesheets. -/
  styles : Nat := 0
  /-- The modules that were passed through. -/
  skipped : Nat := 0
  deriving DecidableEq, Repr

/-- The state of a build. -/
structure Session where
  /-- How far the build has come. -/
  phase : Phase
  /-- The settings of the build. -/
  config : Config
  /-- The names met so far. -/
  registry : Registry
  /-- The files that the bundler emitted. -/
  manifest : Manifest
  /-- How many modules were transformed. -/
  tally : Tally
  deriving DecidableEq, Repr

/-- What a module is taken for, by the end of its name. -/
inductive ModuleKind where
  /-- A script. -/
  | script
  /-- A stylesheet. -/
  | style
  /-- Anything else. -/
  | other
  deriving DecidableEq, Repr

namespace ModuleKind

/-- The end of the name of a script. -/
def scriptSuffix : Text := Text.of ".js"

/-- The end of the name of a stylesheet. -/
def styleSuffix : Text := Text.of ".css"

/-- The kind of a module with a name. -/
def ofName (name : Text) : ModuleKind :=
  if Text.endsWith scriptSuffix name then .script
  else if Text.endsWith styleSuffix name then .style
  else .other

/-- The pass for modules of a kind. -/
def rename : ModuleKind → Text → Naming Text
  | .script, code => Script.rename code
  | .style, code => Stylesheet.rename code
  | .other, code => pure code

/-- Counts a module of a kind. -/
def count (tally : Tally) : ModuleKind → Tally
  | .script => { tally with scripts := tally.scripts + 1 }
  | .style => { tally with styles := tally.styles + 1 }
  | .other => { tally with skipped := tally.skipped + 1 }

end ModuleKind

namespace Session

/-- A session before any call. -/
def start (config : Config) : Session :=
  { phase := .configuring, config, registry := .empty config.scope, manifest := [], tally := {} }

/-- Names are put in scope in this session. -/
def enabled (session : Session) : Bool := session.config.enabled

/-- Looks a name up. -/
def resolve (session : Session) (name : Text) : Text × Session :=
  let (full, registry) := Registry.resolve name session.registry
  (full, { session with registry })

/-- Nothing, if a hook may be called now. -/
def require (session : Session) (hook : Hook) : Except OutOfOrder Unit :=
  if hook.allowedIn session.phase then .ok () else .error ⟨hook, session.phase⟩

/-- What a module is taken for in this session; all are passed through unless it is enabled. -/
def kindOf (session : Session) (name : Text) : ModuleKind :=
  if session.enabled then .ofName name else .other

/-- Transforms a module, given by its name and its code. -/
def transform (session : Session) (name code : Text) : Except OutOfOrder (Text × Session) := do
  session.require .transform
  let kind := session.kindOf name
  let (code, registry) := kind.rename code session.registry
  let tally := kind.count session.tally
  return (code, { session with phase := .transforming, registry, tally })

/-- Marks the bundle as written, with what the bundler emitted. -/
def bundle (session : Session) (manifest : Manifest) : Except OutOfOrder Session := do
  session.require .bundle
  return { session with phase := .bundled, manifest }

/-- The markup in which the address of the preview image is that of the file that was emitted for
it. The marker is looked at if there is an asset at all, the address if one has the marker. -/
def linkPreview (session : Session) (html : WideText) : Except Setting.Misuse WideText :=
  let config := session.config
  if session.manifest.any Asset.isAsset then do
    let marker ← config.previewMarker.demand .marker
    if (session.manifest.markedAsset? marker).isSome then do
      let path ← config.previewPath.demand .address
      return Preview.link session.manifest config.baseUrl.asText marker path html
    else return html
  else return html

/-- The markup with the naming script, if the configuration asks for it. -/
def injectNaming (session : Session) (html : WideText) : WideText :=
  if session.config.injectsNaming.isTrue then
    NamingScript.inject session.config.publishedScope html
  else html

/-- The markup with its class names in scope, with the address of the preview image and, if the
configuration says so, with the naming script. -/
def finishMarkup (session : Session) (html : Text) : Naming (Except Setting.Misuse WideText) := do
  let html ← Markup.renameAttributes html
  return session.injectNaming <$> session.linkPreview (WideText.ofText html)

/-- Finishes the markup. Where a setting has a value that cannot be used, there is no markup, and
the session stays where it is. -/
def finish (session : Session) (html : Text) :
    Except OutOfOrder (Except Setting.Misuse WideText × Session) := do
  session.require .finish
  let session := { session with phase := .finishing }
  let (outcome, registry) :=
    if session.enabled then session.finishMarkup html session.registry
    else (.ok (WideText.ofText html), session.registry)
  let phase := if outcome.isOk then .done else session.phase
  return (outcome, { session with phase, registry })

/-- Transforms modules one after the other. -/
def transformAll (session : Session) :
    List (Text × Text) → Except OutOfOrder (List (Text × Text) × Session)
  | [] => .ok ([], session)
  | (name, code) :: modules => do
    let (code, session) ← session.transform name code
    let (rest, session) ← session.transformAll modules
    return ((name, code) :: rest, session)

end Session

/-- What a whole build gives. -/
structure Build where
  /-- The modules with their transformed code. -/
  modules : List (Text × Text)
  /-- The finished markup. -/
  html : WideText
  /-- The session at the end. -/
  session : Session
  deriving DecidableEq, Repr

/-- Why there is no build. -/
inductive Build.Failure where
  /-- A hook was called out of order. -/
  | order (e : OutOfOrder)
  /-- A setting has a value that cannot be used. -/
  | setting (e : Setting.Misuse)
  deriving DecidableEq, Repr

/-- One whole build: the modules in order, then the markup. -/
def Build.run (config : Config) (modules : List (Text × Text)) (html : Text)
    (manifest : Manifest) : Except Build.Failure Build := do
  let (modules, session) ← ((Session.start config).transformAll modules).mapError .order
  let session ← (session.bundle manifest).mapError .order
  let (outcome, session) ← (session.finish html).mapError .order
  let html ← outcome.mapError .setting
  return { modules, html, session }

end ClassScope
