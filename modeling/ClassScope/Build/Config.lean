import ClassScope.Setting
import ClassScope.Text.Lowercase

/-!
# Configuration

What a build can be told: six settings, each with a default. Settings come from overrides, which
win, then from environment variables, then from the defaults. All should be texts but the flag.
-/

namespace ClassScope

/-- Environment variables with their values. -/
abbrev Environment := List (Text × Text)

namespace Config

/-- The scope, where no other is set. -/
def defaultScope : Text := Text.of "dwp-"

/-- The base address, where no other is set. -/
def defaultBaseUrl : Text := ['/']

/-- The mode in which names are put in scope, which is the mode where no other is set. -/
def production : Text := Text.of "production"

/-- The marker of the preview image, where no other is set. -/
def defaultMarker : Text := Text.of "og-image"

/-- The address of the preview image in the source, where no other is set. -/
def defaultPath : Text := Text.of "./assets/og-image.png"

end Config

/-- The settings of a build. -/
structure Config where
  /-- What is put in front of every class name. -/
  scope : Setting := .text Config.defaultScope
  /-- The address under which emitted files are served. -/
  baseUrl : Setting := .text Config.defaultBaseUrl
  /-- The build mode. -/
  mode : Setting := .text Config.production
  /-- What the emitted name of the preview image contains. -/
  previewMarker : Setting := .text Config.defaultMarker
  /-- The address of the preview image in the source. -/
  previewPath : Setting := .text Config.defaultPath
  /-- The document gets a naming script. -/
  injectsNaming : Setting := .flag false
  deriving DecidableEq, Repr

namespace Config

/-- The modes that have a meaning. -/
def modes : List Text := [Text.of "development", production]

/-- The mode is one of those that have a meaning. -/
def knownMode (config : Config) : Bool := modes.any fun mode => config.mode = .text mode

/-- Names are put in scope in production where the scope is not empty, and in no other mode. -/
def enabled (config : Config) : Bool :=
  config.mode == .text production && config.scope.isTrue

/-- The scope that the naming script publishes: none where no names are put in scope. -/
def publishedScope (config : Config) : Setting :=
  if config.enabled then config.scope else .text []

/-- Settings that win over all others; a setting that is absent wins over nothing. -/
structure Overrides where
  /-- Overrides the scope. -/
  scope : Option Setting := none
  /-- Overrides the base address. -/
  baseUrl : Option Setting := none
  /-- Overrides the mode. -/
  mode : Option Setting := none
  /-- Overrides the marker of the preview image. -/
  previewMarker : Option Setting := none
  /-- Overrides the address of the preview image. -/
  previewPath : Option Setting := none
  /-- Overrides whether the document gets a naming script. -/
  injectsNaming : Option Setting := none
  deriving DecidableEq, Repr

/-- The configuration with some settings overridden. -/
def override (config : Config) (overrides : Overrides) : Config where
  scope := overrides.scope.getD config.scope
  baseUrl := overrides.baseUrl.getD config.baseUrl
  mode := overrides.mode.getD config.mode
  previewMarker := overrides.previewMarker.getD config.previewMarker
  previewPath := overrides.previewPath.getD config.previewPath
  injectsNaming := overrides.injectsNaming.getD config.injectsNaming

/-- The value of a variable, or a default where it is not set. -/
def valueOf (environment : Environment) (name : String) (otherwise : Text) : Text :=
  (Table.get? environment (Text.of name)).getD otherwise

/-- The configuration that the environment gives. The mode and the flag are read in lower case. -/
def ofEnvironment (environment : Environment) : Config :=
  let injects := valueOf environment "INJECT_RUNTIME_NAMING" (Text.of "false")
  { scope := .text (valueOf environment "CLASS_PREFIX" defaultScope)
    baseUrl := .text (valueOf environment "BASE_URL" defaultBaseUrl)
    mode := .text (Text.lower (valueOf environment "BUILD_MODE" production))
    previewMarker := .text (valueOf environment "OG_IMAGE_MARKER" defaultMarker)
    previewPath := .text (valueOf environment "OG_IMAGE_PATH" defaultPath)
    injectsNaming := .flag (Text.lower injects = Text.of "true") }

end Config

end ClassScope
