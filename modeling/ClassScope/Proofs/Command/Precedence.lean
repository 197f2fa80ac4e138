import ClassScope.Proofs.Build.EnvFile
import ClassScope.Proofs.Command.Reading

/-!
# Where the configuration comes from

A setting that is given wins over the environment, the environment over a file of variables, and
that over the default; a file is read only where the environment does not keep it from being read.
So what a file says shows in a setting only if nothing else decides on it. Main statements:

- `Config.Field`, `Command.ResolvesTo`: the fields of a configuration, and where each value comes
  from;
- `Settings.overridden_eq_given?`: which setting counts;
- `Command.answer_readEnvironment`: what a file of variables does to the environment;
- `Command.resolvesTo_of_loadConfig`: the configuration that is loaded;
- `Command.loadConfig_precedence`: this and what two files have in common.
-/

namespace ClassScope

/-! ## Fields -/

namespace Config

/-- The fields of a configuration. -/
inductive Field where
  /-- What is put in front of every class name. -/
  | scope
  /-- The address under which emitted files are served. -/
  | baseUrl
  /-- The build mode. -/
  | mode
  /-- What the emitted name of the preview image contains. -/
  | previewMarker
  /-- The address of the preview image in the source. -/
  | previewPath
  /-- The document gets a naming script. -/
  | injectsNaming
  deriving DecidableEq, Repr

namespace Field

/-- The name of a field among settings. -/
def name : Field → Text
  | .scope => Text.of "prefix"
  | .baseUrl => Text.of "base_url"
  | .mode => Text.of "mode"
  | .previewMarker => Text.of "og_marker"
  | .previewPath => Text.of "og_path"
  | .injectsNaming => Text.of "inject_runtime"

/-- The variable of a field. -/
def variableName : Field → Text
  | .scope => Text.of "CLASS_PREFIX"
  | .baseUrl => Text.of "BASE_URL"
  | .mode => Text.of "BUILD_MODE"
  | .previewMarker => Text.of "OG_IMAGE_MARKER"
  | .previewPath => Text.of "OG_IMAGE_PATH"
  | .injectsNaming => Text.of "INJECT_RUNTIME_NAMING"

/-- What the variable of a field says where it is not set. -/
def default : Field → Text
  | .scope => defaultScope
  | .baseUrl => defaultBaseUrl
  | .mode => production
  | .previewMarker => defaultMarker
  | .previewPath => defaultPath
  | .injectsNaming => Text.of "false"

/-- What a variable means for a field. The mode is read in lower case, and so is the flag. -/
def ofVariable (field : Field) (s : Text) : Setting :=
  match field with
  | .mode => .text (Text.lower s)
  | .injectsNaming => .flag (Text.lower s = Text.of "true")
  | _ => .text s

/-- The value of a field. -/
def of (config : Config) : Field → Setting
  | .scope => config.scope
  | .baseUrl => config.baseUrl
  | .mode => config.mode
  | .previewMarker => config.previewMarker
  | .previewPath => config.previewPath
  | .injectsNaming => config.injectsNaming

/-- What overrides a field. -/
def overridden (overrides : Overrides) : Field → Option Setting
  | .scope => overrides.scope
  | .baseUrl => overrides.baseUrl
  | .mode => overrides.mode
  | .previewMarker => overrides.previewMarker
  | .previewPath => overrides.previewPath
  | .injectsNaming => overrides.injectsNaming

theorem of_override (config : Config) (overrides : Overrides) (field : Field) :
    field.of (config.override overrides) = (field.overridden overrides).getD (field.of config) := by
  cases field <;> rfl

theorem of_ofEnvironment (environment : Environment) (field : Field) :
    field.of (ofEnvironment environment) =
      field.ofVariable ((Table.get? environment field.variableName).getD field.default) := by
  cases field <;> rfl

/-- The default of a field is that of a configuration. -/
theorem ofVariable_default (field : Field) : field.ofVariable field.default = field.of {} := by
  cases field <;> decide +kernel

/-- The overrides with one more value, for this field. -/
def put (value : Setting) (overrides : Overrides) : Field → Overrides
  | .scope => { overrides with scope := some value }
  | .baseUrl => { overrides with baseUrl := some value }
  | .mode => { overrides with mode := some value }
  | .previewMarker => { overrides with previewMarker := some value }
  | .previewPath => { overrides with previewPath := some value }
  | .injectsNaming => { overrides with injectsNaming := some value }

theorem overridden_put (value : Setting) (overrides : Overrides) (field other : Field) :
    other.overridden (field.put value overrides) =
      if field = other then some value else other.overridden overrides := by
  cases field <;> cases other <;> rfl

/-- Fields have different names. -/
theorem name_inj {field other : Field} : field.name = other.name ↔ field = other := by
  refine ⟨fun h => ?_, congrArg name⟩
  cases field <;> cases other <;> first | rfl | simp [name, Text.of_inj] at h

/-- A configuration is its fields. -/
theorem eq_of_forall {config config' : Config}
    (h : ∀ field : Field, field.of config = field.of config') : config = config' := by
  obtain ⟨scope, baseUrl, mode, marker, path, injects⟩ := config
  obtain ⟨scope', baseUrl', mode', marker', path', injects'⟩ := config'
  rw [Config.mk.injEq]
  exact ⟨h .scope, h .baseUrl, h .mode, h .previewMarker, h .previewPath, h .injectsNaming⟩

end Field

end Config

/-! ## Settings that are given -/

namespace Settings

open Config (Field Overrides)

/-- The setting with a name that counts: the last one that is not null. -/
def given? (settings : Settings) (name : Text) : Option Setting :=
  Table.get? (settings.filter (·.2 ≠ .other .null)).reverse name

/-- A setting is put into the field with its name. -/
theorem exists_field_of_set {overrides overrides' : Overrides} {name : Text} {value : Setting}
    (h : set overrides name value = .ok overrides') :
    ∃ field : Field, name = field.name ∧ overrides' = field.put value overrides := by
  have hname : ∀ {s : String}, String.ofList name = s → name = Text.of s := by
    rintro s rfl
    rw [Text.of_eq_toList, String.toList_ofList]
  unfold set at h
  split at h
  · exact ⟨.scope, hname ‹_›, (Except.ok.inj h).symm⟩
  · exact ⟨.baseUrl, hname ‹_›, (Except.ok.inj h).symm⟩
  · exact ⟨.mode, hname ‹_›, (Except.ok.inj h).symm⟩
  · exact ⟨.previewMarker, hname ‹_›, (Except.ok.inj h).symm⟩
  · exact ⟨.previewPath, hname ‹_›, (Except.ok.inj h).symm⟩
  · exact ⟨.injectsNaming, hname ‹_›, (Except.ok.inj h).symm⟩
  · cases h

/-- Of the settings that are put one after the other the last one with a name counts. -/
theorem overridden_of_foldlM {settings : Settings} {overrides : Overrides}
    (h : settings.foldlM (fun overrides (name, value) => set overrides name value) {} =
      .ok overrides) (field : Field) :
    field.overridden overrides = Table.get? settings.reverse field.name := by
  induction settings using List.reverseRecOn generalizing overrides with
  | nil =>
    cases h
    cases field <;> rfl
  | append_singleton settings setting ih =>
    rw [List.foldlM_append] at h
    obtain ⟨front, hfront, h⟩ := bind_eq_ok.1 h
    obtain ⟨other, hname, rfl⟩ := exists_field_of_set
      (show set front setting.1 setting.2 = .ok overrides by simpa using h)
    rw [Field.overridden_put, List.reverse_append, List.reverse_singleton, List.singleton_append,
      Table.get?_cons, ih hfront, hname]
    simp only [Field.name_inj]

/-- A field is overridden by the setting with its name that counts. -/
theorem overridden_eq_given? {settings : Settings} {overrides : Overrides}
    (h : settings.overrides = .ok overrides) (field : Field) :
    field.overridden overrides = given? settings field.name := by
  obtain ⟨checked, hchecked, h⟩ := bind_eq_ok.1 h
  unfold check at hchecked
  split at hchecked
  · cases hchecked
  · cases hchecked
    exact overridden_of_foldlM h field

end Settings

/-! ## Files of variables -/

namespace Command

open Config (Field)

variable {tree tree' : FileTree} {environment environment' : Environment}
  {envFile envFile' : Option Text} {settings : Settings} {config config' : Config}
  {contents contents' name s : Text}

/-- The file of variables is read, with these contents. -/
structure ReadsVariables (tree : FileTree) (environment : Environment) (envFile : Option Text)
    (contents : Text) : Prop where
  /-- The environment does not keep files of variables from being read. -/
  on : EnvFile.isSwitchedOff environment = false
  /-- The path leads to a file with these contents. -/
  file : ∃ path bytes, envFile = some path ∧ path ≠ [] ∧ leadsToNoFile path = false ∧
    tree.at? (.ofText path) = .ok (.file bytes) ∧ Utf8.decode bytes = .ok contents

theorem path?_eq_some_iff {path : Path} :
    path? envFile = some path ↔ ∃ s, envFile = some s ∧ s ≠ [] ∧ path = .ofText s := by
  match envFile with
  | none => simp [path?]
  | some [] => simp [path?]
  | some (c :: s) => simp [path?, eq_comm]

/-- A file has one text. -/
theorem ReadsVariables.unique (h : ReadsVariables tree environment envFile contents)
    (h' : ReadsVariables tree environment envFile contents') : contents = contents' := by
  obtain ⟨path, bytes, rfl, -, -, hfile, hcontents⟩ := h.file
  obtain ⟨path', bytes', hpath, -, -, hfile', hcontents'⟩ := h'.file
  cases Option.some.inj hpath
  cases Except.ok.inj (hfile.symm.trans hfile')
  exact Except.ok.inj (hcontents.symm.trans hcontents')

/-- The variables of a file that is read are put into the environment. -/
theorem answer_readEnvironment_of_reads (h : ReadsVariables tree environment envFile contents) :
    (readEnvironment environment envFile).answer tree =
      (EnvFile.apply environment contents).mapError fun e => .failed (.variable e) := by
  obtain ⟨path, bytes, rfl, hne, hleads, hfile, hcontents⟩ := h.file
  have hpath : path? (some path) = some (.ofText path) :=
    path?_eq_some_iff.2 ⟨path, rfl, hne, rfl⟩
  simp only [readEnvironment, hpath, h.on, Bool.false_eq_true, if_false]
  rw [Job.answer, Job.run_bind_ok (Job.run_tree _)]
  simp only [hfile, hleads, Bool.false_eq_true, if_false, Job.run_bind, Job.run_orFail, hcontents,
    mapError_ok]

/-- The environment stays as it was if no file is read, unless reading stops. -/
theorem answer_readEnvironment_of_not_reads
    (hnone : ∀ contents, ¬ ReadsVariables tree environment envFile contents)
    (h : (readEnvironment environment envFile).answer tree = .ok environment') :
    environment' = environment := by
  unfold readEnvironment at h
  split at h
  · rename_i path _ hpath
    obtain ⟨_, heq, hne, rfl⟩ := path?_eq_some_iff.1 hpath
    cases heq
    split at h
    · exact (Except.ok.inj h).symm
    · rename_i hon
      rw [Job.answer, Job.run_bind_ok (Job.run_tree _)] at h
      dsimp only at h
      split at h
      · cases h
      · rename_i bytes hfile
        split at h
        · exact (Except.ok.inj h).symm
        · -- Nothing else keeps this file from being read than bytes that are no text.
          rename_i hleads
          rw [Job.run_bind, Job.run_orFail] at h
          cases hcontents : Utf8.decode bytes with
          | error e =>
            rw [hcontents] at h
            cases h
          | ok contents =>
            exact absurd ⟨Bool.eq_false_iff.2 hon, path, bytes, rfl, hne,
              Bool.eq_false_iff.2 hleads, hfile, hcontents⟩ (hnone contents)
      · exact (Except.ok.inj h).symm
  · exact (Except.ok.inj h).symm

/-- The environment that a configuration is made from: with the variables of the file if one is
read, else as it was. -/
theorem answer_readEnvironment
    (h : (readEnvironment environment envFile).answer tree = .ok environment') :
    (∃ contents, ReadsVariables tree environment envFile contents ∧
        EnvFile.apply environment contents = .ok environment') ∨
      (∀ contents, ¬ ReadsVariables tree environment envFile contents) ∧
        environment' = environment := by
  by_cases hreads : ∃ contents, ReadsVariables tree environment envFile contents
  · obtain ⟨contents, hreads⟩ := hreads
    rw [answer_readEnvironment_of_reads hreads] at h
    exact .inl ⟨contents, hreads, mapError_eq_ok.1 h⟩
  · exact .inr ⟨not_exists.1 hreads,
      answer_readEnvironment_of_not_reads (not_exists.1 hreads) h⟩

/-- The file of variables that is read gives a variable a value. -/
def FileGives (tree : FileTree) (environment : Environment) (envFile : Option Text)
    (name s : Text) : Prop :=
  ∃ contents, ReadsVariables tree environment envFile contents ∧
    EnvFile.Gives environment contents name s

/-- A file gives a variable one value. -/
theorem FileGives.unique {s' : Text} (h : FileGives tree environment envFile name s)
    (h' : FileGives tree environment envFile name s') : s = s' := by
  obtain ⟨contents, hreads, hgives⟩ := h
  obtain ⟨contents', hreads', hgives'⟩ := h'
  cases hreads.unique hreads'
  exact Option.some.inj ((EnvFile.gives_iff.1 hgives).symm.trans (EnvFile.gives_iff.1 hgives'))

/-- What a variable stands for once a file of variables was read. -/
theorem get?_readEnvironment
    (h : (readEnvironment environment envFile).answer tree = .ok environment') :
    Table.get? environment' name = some s ↔ Table.get? environment name = some s ∨
      Table.get? environment name = none ∧ FileGives tree environment envFile name s := by
  rcases answer_readEnvironment h with ⟨contents, hreads, happly⟩ | ⟨hnone, rfl⟩
  · have hgives : FileGives tree environment envFile name s ↔
        EnvFile.Gives environment contents name s := by
      refine ⟨?_, fun hgives => ⟨contents, hreads, hgives⟩⟩
      rintro ⟨contents', hreads', hgives⟩
      rwa [hreads.unique hreads']
    rw [hgives, EnvFile.gives_iff, EnvFile.get?_apply happly, Option.or_eq_some_iff]
  · have hgives : ¬ FileGives tree environment' envFile name s :=
      fun ⟨contents, hreads, _⟩ => hnone contents hreads
    simp [hgives]

/-! ## Loading -/

/-- Where the value of a field comes from, if `file` says what a file of variables gives. -/
inductive ResolvesTo (field : Field) (settings : Settings) (environment : Environment)
    (file : Text → Text → Prop) : Setting → Prop where
  /-- The setting is given. -/
  | given {value : Setting} (h : settings.given? field.name = some value) :
    ResolvesTo field settings environment file value
  /-- The variable is set. -/
  | environment {s : Text} (hgiven : settings.given? field.name = none)
    (h : Table.get? environment field.variableName = some s) :
    ResolvesTo field settings environment file (field.ofVariable s)
  /-- The file gives the variable. -/
  | file {s : Text} (hgiven : settings.given? field.name = none)
    (hset : Table.get? environment field.variableName = none) (h : file field.variableName s) :
    ResolvesTo field settings environment file (field.ofVariable s)
  /-- Nothing says otherwise. -/
  | default (hgiven : settings.given? field.name = none)
    (hset : Table.get? environment field.variableName = none)
    (h : ∀ s, ¬ file field.variableName s) :
    ResolvesTo field settings environment file (field.ofVariable field.default)

/-- A configuration that is loaded is made from an environment and overridden. -/
theorem exists_of_loadConfig
    (h : (loadConfig environment envFile settings).answer tree = .ok config) :
    ∃ environment' overrides, (readEnvironment environment envFile).answer tree = .ok environment' ∧
      settings.overrides = .ok overrides ∧
      config = (Config.ofEnvironment environment').override overrides := by
  rw [loadConfig, (Job.readsOnly_orFail _ _).answer_bind fun _ =>
    (readsOnly_readEnvironment _ _).bind fun _ =>
      (Job.readsOnly_orFail _ _).bind fun _ => Job.readsOnly_pure _] at h
  obtain ⟨checked, hchecked, h⟩ := bind_eq_ok.1 h
  rw [(readsOnly_readEnvironment _ _).answer_bind fun _ =>
    (Job.readsOnly_orFail _ _).bind fun _ => Job.readsOnly_pure _] at h
  obtain ⟨environment', henvironment, h⟩ := bind_eq_ok.1 h
  rw [(Job.readsOnly_orFail _ _).answer_bind fun _ => Job.readsOnly_pure _] at h
  obtain ⟨overrides, hoverrides, h⟩ := bind_eq_ok.1 h
  rw [Job.answer, Job.run_orFail, mapError_eq_ok] at hchecked hoverrides
  have hsame : checked = settings := by
    unfold Settings.check at hchecked
    split at hchecked
    · cases hchecked
    · exact (Except.ok.inj hchecked).symm
  exact ⟨environment', overrides, henvironment, hsame ▸ hoverrides, (Except.ok.inj h).symm⟩

/-- The value of each field comes from the first that has one. -/
theorem resolvesTo_of_loadConfig
    (h : (loadConfig environment envFile settings).answer tree = .ok config) (field : Field) :
    ResolvesTo field settings environment (FileGives tree environment envFile)
      (field.of config) := by
  obtain ⟨environment', overrides, henvironment, hoverrides, rfl⟩ := exists_of_loadConfig h
  rw [Field.of_override, Settings.overridden_eq_given? hoverrides, Field.of_ofEnvironment]
  cases hgiven : settings.given? field.name with
  | some value => exact .given hgiven
  | none =>
    have hvariable (s : Text) : Table.get? environment' field.variableName = some s ↔
        Table.get? environment field.variableName = some s ∨
          Table.get? environment field.variableName = none ∧
            FileGives tree environment envFile field.variableName s :=
      get?_readEnvironment henvironment
    cases hset : Table.get? environment field.variableName with
    | some s =>
      rw [(hvariable s).2 (.inl hset)]
      exact .environment hgiven hset
    | none =>
      cases hvalue : Table.get? environment' field.variableName with
      | some s =>
        obtain hset' | ⟨-, hfile⟩ := (hvariable s).1 hvalue
        · rw [hset] at hset'
          cases hset'
        · exact .file hgiven hset hfile
      | none =>
        refine .default hgiven hset fun s hfile => ?_
        rw [(hvariable s).2 (.inr ⟨hset, hfile⟩)] at hvalue
        cases hvalue

/-- A field has one value if the file gives its variable one. -/
theorem ResolvesTo.unique {field : Field} {file : Text → Text → Prop} {value value' : Setting}
    (h : ResolvesTo field settings environment file value)
    (h' : ResolvesTo field settings environment file value')
    (hunique : ∀ s s', file field.variableName s → file field.variableName s' → s = s') :
    value = value' := by
  cases h with
  | given h =>
    cases h' with
    | given h' => exact Option.some.inj (h.symm.trans h')
    | environment hgiven | file hgiven | default hgiven => cases h.symm.trans hgiven
  | environment hgiven h =>
    cases h' with
    | given h' => cases hgiven.symm.trans h'
    | environment _ h' => rw [Option.some.inj (h.symm.trans h')]
    | file _ hset | default _ hset => cases h.symm.trans hset
  | file hgiven hset h =>
    cases h' with
    | given h' => cases hgiven.symm.trans h'
    | environment _ h' => cases hset.symm.trans h'
    | file _ _ h' => rw [hunique _ _ h h']
    | default _ _ hnone => exact absurd h (hnone _)
  | default hgiven hset hnone =>
    cases h' with
    | given h' => cases hgiven.symm.trans h'
    | environment _ h' => cases hset.symm.trans h'
    | file _ _ h' => exact absurd h' (hnone _)
    | default => rfl

/-- What a file says does not show where something else decides, and another file that says the same
may stand for it. -/
theorem ResolvesTo.of_agree {field : Field} {file file' : Text → Text → Prop} {value : Setting}
    (h : ResolvesTo field settings environment file value)
    (hagree : settings.given? field.name = none →
      Table.get? environment field.variableName = none →
        ∀ s, file field.variableName s ↔ file' field.variableName s) :
    ResolvesTo field settings environment file' value := by
  cases h with
  | given h => exact .given h
  | environment hgiven h => exact .environment hgiven h
  | file hgiven hset h => exact .file hgiven hset ((hagree hgiven hset _).1 h)
  | default hgiven hset hnone =>
    exact .default hgiven hset fun s hs => hnone s ((hagree hgiven hset s).2 hs)

/-- The value of each field of a configuration that is loaded comes from the setting that is given,
else from the environment, else from the file of variables if it is read, else from the default.
Two files that give the variables of the fields the same values give the same configuration, and no
file changes a field whose setting is given or whose variable is set. -/
theorem loadConfig_precedence
    (h : (loadConfig environment envFile settings).answer tree = .ok config) :
    (∀ field : Field,
      ResolvesTo field settings environment (FileGives tree environment envFile)
        (field.of config)) ∧
    ∀ envFile' tree' config',
      (loadConfig environment envFile' settings).answer tree' = .ok config' →
      ((∀ (field : Field) (s : Text), FileGives tree environment envFile field.variableName s ↔
        FileGives tree' environment envFile' field.variableName s) → config = config') ∧
      ∀ field : Field, settings.given? field.name ≠ none ∨
        Table.get? environment field.variableName ≠ none → field.of config = field.of config' := by
  refine ⟨resolvesTo_of_loadConfig h, fun envFile' tree' config' h' => ⟨fun hagree => ?_, ?_⟩⟩
  · refine Field.eq_of_forall fun field => ?_
    have hsame := (resolvesTo_of_loadConfig h field).of_agree fun _ _ => hagree field
    exact hsame.unique (resolvesTo_of_loadConfig h' field) fun _ _ => FileGives.unique
  · intro field hdecided
    refine ((resolvesTo_of_loadConfig h field).of_agree fun hgiven hset => ?_).unique
      (resolvesTo_of_loadConfig h' field) fun _ _ => FileGives.unique
    rcases hdecided with hgiven' | hset'
    · exact absurd hgiven hgiven'
    · exact absurd hset hset'

/-- The working directory with a file of variables. -/
def variableSite (contents : String) : FileTree :=
  FileTree.empty.addFile (.ofText (Text.of "e.env")) (Utf8.encode (Text.of contents))

/-- An environment in which the base address is empty. -/
def baseless : Environment := [(Text.of "BASE_URL", [])]

/-- A flag that is given as a text, and a scope that is null. -/
def givenFlag : Settings :=
  [(Text.of "inject_runtime", .text (Text.of "yes")), (Text.of "prefix", .other .null)]

/-- What is loaded then from a file of variables. -/
def loadBaseless (contents : String) : Except Stop Config :=
  (loadConfig baseless (some (Text.of "e.env")) givenFlag).answer (variableSite contents)

/-- The scope comes from the last binding in the file and the mode too, in lower case; the base
address comes from the environment whatever the file says, and the flag is as it is given. -/
theorem loadConfig_precedence_baseless :
    ∃ config config',
      loadBaseless
        "BASE_URL=/x/\nBUILD_MODE=Staging\nCLASS_PREFIX=a\nCLASS_PREFIX=$\x7bY:-b\x7d-" =
          .ok config ∧
      loadBaseless "BASE_URL=/y/" = .ok config' ∧
      config.scope = .text (Text.of "b-") ∧ config.mode = .text (Text.of "staging") ∧
      config.injectsNaming = .text (Text.of "yes") ∧ config.baseUrl = .text [] ∧
      config'.baseUrl = config.baseUrl := by
  have hconfig : loadBaseless
      "BASE_URL=/x/\nBUILD_MODE=Staging\nCLASS_PREFIX=a\nCLASS_PREFIX=$\x7bY:-b\x7d-" =
        .ok { scope := .text (Text.of "b-"), baseUrl := .text [],
              mode := .text (Text.of "staging"), injectsNaming := .text (Text.of "yes") } := by
    decide +kernel
  have hconfig' : loadBaseless "BASE_URL=/y/" =
      .ok { baseUrl := .text [], injectsNaming := .text (Text.of "yes") } := by
    decide +kernel
  refine ⟨_, _, hconfig, hconfig', rfl, rfl, rfl, rfl, ?_⟩
  obtain ⟨-, hagree⟩ := loadConfig_precedence hconfig
  obtain ⟨-, hdecided⟩ := hagree _ _ _ hconfig'
  exact (hdecided .baseUrl (.inr (by decide +kernel))).symm

/-- An environment that keeps files of variables from being read. -/
def switchedOff : Environment := [(Text.of EnvFile.switchName, Text.of "TRUE")]

/-- Such an environment leaves a field at its default, though the file gives its variable. -/
theorem loadConfig_switchedOff :
    (loadConfig switchedOff (some (Text.of "e.env")) []).answer (variableSite "CLASS_PREFIX=f-") =
        .ok {} ∧
      (variableSite "CLASS_PREFIX=f-").read (.ofText (Text.of "e.env")) =
        .ok (Utf8.encode (Text.of "CLASS_PREFIX=f-")) ∧
      EnvFile.Gives switchedOff (Text.of "CLASS_PREFIX=f-") Field.scope.variableName
        (Text.of "f-") ∧
      Table.get? switchedOff Field.scope.variableName = none ∧
      Field.scope.of {} ≠ .text (Text.of "f-") := by
  refine ⟨by decide +kernel, by decide +kernel, EnvFile.gives_iff.2 ?_, ?_, ?_⟩
  · decide +kernel
  · decide +kernel
  · decide +kernel

end Command

end ClassScope
