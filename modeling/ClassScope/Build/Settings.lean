import ClassScope.Build.Config

/-!
# Settings by name

Settings as names with values, which is how the host of a build gives them. A name that is none is
an error, and so is a name that the way of giving the settings takes for itself.
-/

namespace ClassScope

/-- Settings with their names, in the order they are given in. -/
abbrev Settings := List (Text × Setting)

/-- The ways to give settings. -/
inductive Giver where
  /-- For a new configuration. -/
  | configuration
  /-- As overrides of a configuration. -/
  | overriding
  /-- As overrides of what the environment says. -/
  | loading
  deriving DecidableEq, Repr

/-- The name that a way of giving settings takes for itself. -/
def Giver.reserved : Giver → Text
  | .configuration | .overriding => Text.of "self"
  | .loading => Text.of "env_file"

/-- What is wrong with the name of a setting. -/
inductive SettingFault where
  /-- There is no such setting. -/
  | unknown (name : Text)
  /-- The name is taken by the way the settings are given. -/
  | taken (giver : Giver)
  deriving DecidableEq, Repr

/-- The word for a way to give settings, for messages. -/
def Giver.word : Giver → String
  | .configuration => "BuildConfig.__init__()"
  | .overriding => "BuildConfig.with_overrides()"
  | .loading => "load_config()"

/-- The wording of a fault. -/
def SettingFault.message : SettingFault → String
  | .unknown name =>
    Giver.configuration.word ++ " got an unexpected keyword argument '" ++ String.ofList name ++ "'"
  | .taken giver =>
    giver.word ++ " got multiple values for argument '" ++ String.ofList giver.reserved ++ "'"

namespace Settings

/-- The overrides with one more setting. -/
def set (overrides : Config.Overrides) (name : Text) (value : Setting) :
    Except SettingFault Config.Overrides :=
  match String.ofList name with
  | "prefix" => .ok { overrides with scope := some value }
  | "base_url" => .ok { overrides with baseUrl := some value }
  | "mode" => .ok { overrides with mode := some value }
  | "og_marker" => .ok { overrides with previewMarker := some value }
  | "og_path" => .ok { overrides with previewPath := some value }
  | "inject_runtime" => .ok { overrides with injectsNaming := some value }
  | _ => .error (.unknown name)

/-- The settings, unless one has the name that is taken. -/
def check (giver : Giver) (settings : Settings) : Except SettingFault Settings :=
  if settings.any (·.1 = giver.reserved) then .error (.taken giver) else .ok settings

/-- A new configuration with these settings; the first wrong name counts. -/
def config (settings : Settings) : Except SettingFault Config := do
  let overrides ← settings.foldlM
    (fun overrides (name, value) => do
      let _ ← check .configuration [(name, value)]
      set overrides name value)
    {}
  return ({} : Config).override overrides

/-- The overrides that these settings are; a setting that is `null` is none. -/
def overrides (settings : Settings) : Except SettingFault Config.Overrides := do
  let settings ← check .overriding settings
  (settings.filter (·.2 ≠ .other .null)).foldlM
    (fun overrides (name, value) => set overrides name value)
    {}

end Settings

end ClassScope
