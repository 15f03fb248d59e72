/-
`parse_args` and what it reads: the command line through the derived `clap` parser, the config file
(`read_config_file`) and `RGA_CONFIG` (`read_config_env`, kept for the preprocessor in
`PREPROC_ENV_CONFIG`), merged with `json_merge` in the order file, environment, arguments, and read
back with `from_value`. The process state holds the environment variable, the files and the cache
cell; the pieces of the crate outside `config.rs` are parameters.
-/
import RipgrepAll.Config.Laws

namespace RipgrepAll

open Json

/-! ## The process and the crate around `config.rs` -/

/-- An `OsString` of the command line, as the bytes it holds on Unix. -/
structure OsString where
  bytes : List UInt8
  deriving DecidableEq

/-- `OsStr::to_str`: the text, when the bytes are UTF-8. -/
def OsString.toStr (x : OsString) : Option String := String.fromUTF8? ⟨x.bytes.toArray⟩

/-- `OsString::from(&str)`. -/
def OsString.ofString (s : String) : OsString := ⟨s.toUTF8.toList⟩

/-- The derived `clap::Parser` of `RgaConfig`: `parse_from` returns the draft, or prints a message
(an error, the help, the version) and exits. `custom_adapters` is `#[clap(skip)]`, so it is `None`
in every draft. -/
structure Clap (A : Type) where
  parseFrom : List OsString → Option (RgaConfig A)
  customAdapters_eq_none : ∀ args D, parseFrom args = some D → D.customAdapters = none

/-- How `File::create(path)` and then `write_all(text)` fail: `File::create` fails and the path is
left as it was, or `write_all` fails after `File::create` and the file holds the first `written`
characters of the text. Each carries the `io::Error`'s message. -/
inductive IoFault where
  | create (msg : String)
  | write (msg : String) (written : Nat)
  deriving DecidableEq

/-- What `config.rs` takes from the rest of the crate, from its libraries and from the file system.
The file system's failures are fixed for a process: a path that cannot be created or written fails
the same way each time. -/
structure Deps (A : Type) where
  /-- `project_dirs()`'s cache directory, behind `CachePath::default()`. -/
  cacheDir : String
  /-- `config_dir.join("config.jsonc")`. -/
  configFile : String
  /-- `config_dir.join("config.v1.schema.json")`. -/
  schemaFile : String
  /-- The serde impls of `CustomAdapterConfig`. -/
  adapter : Codec A
  clap : Clap A
  /-- `serde_json::from_str::<Value>`. -/
  fromStr : String → Option Value
  /-- `json_comments::StripComments`, read to the end. -/
  stripComments : String → String
  /-- `serde_json::to_string_pretty` of a `Value`. -/
  toStringPretty : Value → String
  /-- The pretty-printed `schemars::schema_for!(RgaConfig)`. -/
  schemaText : String
  /-- `include_str!("../doc/config.default.jsonc")`. -/
  defaultConfigText : String
  /-- The message of the error `create_dir_all(config_dir)` returns, where it fails. -/
  configDirError : Option String
  /-- How writing a path fails, where it does. -/
  writeFault : String → Option IoFault

/-- The errors of `parse_args`, each as the context `anyhow` gives it. -/
inductive ConfigError where
  | readConfigFile (path : String)
  | configFile (path contents : String)
  | parseConfigJson
  | notFound (path : String)
  | parseEnv
  | mergedConfig (merged : String)
  /-- an `io::Error` of the first run's writes, passed on by `?` without a context -/
  | io (msg : String)
  deriving DecidableEq

def ConfigError.message : ConfigError → String
  | .readConfigFile path => "Could not read config file json " ++ path
  | .configFile path contents => "Error in config file " ++ path ++ ": " ++ contents
  | .parseConfigJson => "Could not parse config json"
  | .notFound path => "Config file not found: " ++ path
  | .parseEnv => "could not parse config from env RGA_CONFIG"
  | .mergedConfig merged => "Error parsing merged config: " ++ merged
  | .io msg => msg

/-- What `parse_args` reads and writes of the process: `RGA_CONFIG`, the files (a path holds
nothing, a file `read_to_string` fails on, or a text) and the `PREPROC_ENV_CONFIG` cell. -/
structure Process where
  /-- `std::env::var(RGA_CONFIG).ok()`: the value where the variable is set and UTF-8, `none` where
  it is unset or not UTF-8. -/
  env : Option String
  files : String → Option (Option String)
  preprocEnvConfig : Option Value

/-- `File::create(path)` and `write_all(text)`. -/
def Process.write (s : Process) (path text : String) : Process :=
  { s with files := fun p => if p = path then some (some text) else s.files p }

@[simp] theorem Process.write_env (s : Process) (path text : String) : (s.write path text).env = s.env :=
  rfl

@[simp] theorem Process.write_preprocEnvConfig (s : Process) (path text : String) :
    (s.write path text).preprocEnvConfig = s.preprocEnvConfig :=
  rfl

section Resolve

variable {A : Type} (deps : Deps A)

/-! ## The readers -/

/-- `serde_json::from_str::<RgaConfig>`, the typed check of `read_config_file`: the text read as a
document, then as a configuration. -/
def fromStrConfig (text : String) : Option (RgaConfig A) :=
  (deps.fromStr text).bind fun v => (RgaConfig.fromValue deps.cacheDir deps.adapter v).toOption

/-- `File::create(path)?` and `write_all(text)?`, failing as the file system does for `path`. -/
def writeFile (path text : String) (s : Process) : Except String Unit × Process :=
  match deps.writeFault path with
  | none => (.ok (), s.write path text)
  | some (.create msg) => (.error msg, s)
  | some (.write msg n) => (.error msg, s.write path (text.take n))

/-- The writes of a first run: `create_dir_all(config_dir)?`, then the schema file, then the
default config file. A failing step ends them, with its error and the process as it left it. -/
def writeDefaults (s : Process) : Except String Unit × Process :=
  match deps.configDirError with
  | some msg => (.error msg, s)
  | none =>
    match writeFile deps deps.schemaFile deps.schemaText s with
    | (.ok (), s) => writeFile deps deps.configFile deps.defaultConfigText s
    | (.error msg, s) => (.error msg, s)

/-- The first run's writes change the files only. -/
theorem writeDefaults_frame (s : Process) :
    (writeDefaults deps s).2.env = s.env ∧ (writeDefaults deps s).2.preprocEnvConfig = s.preprocEnvConfig := by
  unfold writeDefaults writeFile
  rcases deps.configDirError with _ | _ <;> rcases deps.writeFault deps.schemaFile with _ | _ | _ <;>
    rcases deps.writeFault deps.configFile with _ | _ | _ <;> exact ⟨rfl, rfl⟩

@[simp] theorem writeDefaults_env (s : Process) : (writeDefaults deps s).2.env = s.env :=
  (writeDefaults_frame deps s).1

@[simp] theorem writeDefaults_preprocEnvConfig (s : Process) :
    (writeDefaults deps s).2.preprocEnvConfig = s.preprocEnvConfig :=
  (writeDefaults_frame deps s).2

/-- `read_config_file(path_override)`: the file's name and document. A file that exists must pass
the typed check; a missing default file is written, with the schema beside it, and reads as `{}`;
a failing write is the error. -/
def readConfigFile (pathOverride : Option String) (s : Process) :
    Except ConfigError (String × Value) × Process :=
  let configFilename := pathOverride.getD deps.configFile
  match s.files configFilename with
  | some none => (.error (.readConfigFile configFilename), s)
  | some (some raw) =>
    let contents := deps.stripComments raw
    match fromStrConfig deps contents, deps.fromStr contents with
    | none, _ => (.error (.configFile configFilename contents), s)
    | some _, none => (.error .parseConfigJson, s)
    | some _, some configJson => (.ok (configFilename, configJson), s)
  | none =>
    match pathOverride with
    | some p => (.error (.notFound p), s)
    | none =>
      match writeDefaults deps s with
      | (.ok (), s) => (.ok (configFilename, ⟨.object [], rfl⟩), s)
      | (.error msg, s) => (.error (.io msg), s)

/-- `read_config_env()`: `RGA_CONFIG` read as a document; unset, `to_value(RgaConfig::default())`. -/
def readConfigEnv (env : Option String) : Except ConfigError Value :=
  match env with
  | some val =>
    match deps.fromStr val with
    | some v => .ok v
    | none => .error .parseEnv
  | none => .ok (RgaConfig.toValue deps.cacheDir deps.adapter (RgaConfig.default deps.cacheDir))

/-- `read_config_env_cached()`: the document in `PREPROC_ENV_CONFIG`, or else `read_config_env()`,
stored there when it succeeds. -/
def readConfigEnvCached (s : Process) : Except ConfigError Value × Process :=
  match s.preprocEnvConfig with
  | some v => (.ok v, s)
  | none =>
    match readConfigEnv deps s.env with
    | .ok v => (.ok v, { s with preprocEnvConfig := some v })
    | .error e => (.error e, s)

/-! ## `parse_args` -/

/-- The `merged_config` block of `parse_args`: environment then arguments for the preprocessor; file,
environment, then arguments otherwise. -/
def mergedConfig (argMatches : RgaConfig A) (isRgaPreproc : Bool) (s : Process) :
    Except ConfigError Value × Process :=
  let argsConfig := RgaConfig.toValue deps.cacheDir deps.adapter argMatches
  if isRgaPreproc then
    match readConfigEnvCached deps s with
    | (.ok v, s) => (.ok (jsonMerge v argsConfig), s)
    | (.error e, s) => (.error e, s)
  else
    match readConfigFile deps argMatches.configFilePath s with
    | (.ok (_, configFileConfig), s) =>
      match readConfigEnv deps s.env with
      | .ok envVarConfig => (.ok (jsonMerge (jsonMerge configFileConfig envVarConfig) argsConfig), s)
      | .error e => (.error e, s)
    | (.error e, s) => (.error e, s)

/-- `parse_args(args, is_rga_preproc)`, `none` where `clap` exits the process. The merged document is
read back and the values under `#[serde(skip)]` that the code re-adds are taken from the draft. -/
def parseArgs (args : List OsString) (isRgaPreproc : Bool) (s : Process) :
    Option (Except ConfigError (RgaConfig A) × Process) :=
  (deps.clap.parseFrom args).map fun argMatches =>
    match mergedConfig deps argMatches isRgaPreproc s with
    | (.ok merged, s) =>
      match RgaConfig.fromValue deps.cacheDir deps.adapter merged with
      | .ok res => (.ok { res with
          fzfPath := argMatches.fzfPath, listAdapters := argMatches.listAdapters,
          printConfigSchema := argMatches.printConfigSchema, rgHelp := argMatches.rgHelp,
          rgVersion := argMatches.rgVersion }, s)
      | .error _ => (.error (.mergedConfig (deps.toStringPretty merged)), s)
    | (.error e, s) => (.error e, s)

/-! ## What the readers return -/

/-- `RGA_CONFIG` is unset or holds a document that reads as a configuration. -/
def EnvValid (env : Option String) : Prop :=
  ∀ t ∈ env, ∃ v, deps.fromStr t = some v ∧ ∃ c, RgaConfig.fromValue deps.cacheDir deps.adapter v = .ok c

theorem fromStrConfig_eq_some {text : String} {c : RgaConfig A} (h : fromStrConfig deps text = some c) :
    ∃ v, deps.fromStr text = some v ∧ RgaConfig.fromValue deps.cacheDir deps.adapter v = .ok c := by
  obtain ⟨v, hv, hc⟩ := Option.bind_eq_some.1 h
  refine ⟨v, hv, ?_⟩
  revert hc
  cases RgaConfig.fromValue deps.cacheDir deps.adapter v <;> simp [Except.toOption]

/-- A draft's own document reads back as the draft, its `#[serde(skip)]` fields reset. -/
theorem fromValue_toValue_draft {D : RgaConfig A} (hD : D.customAdapters = none) :
    RgaConfig.fromValue deps.cacheDir deps.adapter (RgaConfig.toValue deps.cacheDir deps.adapter D) =
      .ok D.withSkippedDefault :=
  RgaConfig.deserialize_serialize _ _ D (by simp [hD])

/-- `read_config_file` changes only files, and a document it returns passed the typed check. -/
theorem readConfigFile_spec (o : Option String) (s : Process) :
    (readConfigFile deps o s).2.env = s.env ∧
    (readConfigFile deps o s).2.preprocEnvConfig = s.preprocEnvConfig ∧
    ∀ n F, (readConfigFile deps o s).1 = .ok (n, F) →
      ∃ c, RgaConfig.fromValue deps.cacheDir deps.adapter F = .ok c := by
  unfold readConfigFile
  dsimp only
  split
  · exact ⟨rfl, rfl, nofun⟩
  · split
    · exact ⟨rfl, rfl, nofun⟩
    · exact ⟨rfl, rfl, nofun⟩
    · rename_i c _ hc hv
      obtain ⟨v, hv', hvc⟩ := fromStrConfig_eq_some deps hc
      rw [hv] at hv'
      cases hv'
      exact ⟨rfl, rfl, by rintro n F ⟨⟩; exact ⟨c, hvc⟩⟩
  · split
    · exact ⟨rfl, rfl, nofun⟩
    · have h₁ := writeDefaults_env deps s
      have h₂ := writeDefaults_preprocEnvConfig deps s
      rcases hw : writeDefaults deps s with ⟨_ | _, s₁⟩ <;> rw [hw] at h₁ h₂ <;> dsimp only
      · exact ⟨h₁, h₂, nofun⟩
      · exact ⟨h₁, h₂, by rintro n F ⟨⟩; exact ⟨_, rfl⟩⟩

theorem readConfigEnv_accepts {env : Option String} (h : EnvValid deps env) {v : Value}
    (hv : readConfigEnv deps env = .ok v) :
    ∃ c, RgaConfig.fromValue deps.cacheDir deps.adapter v = .ok c := by
  cases env with
  | none =>
    cases hv
    exact ⟨_, fromValue_toValue_draft deps rfl⟩
  | some t =>
    obtain ⟨w, hw, hc⟩ := h t rfl
    simp only [readConfigEnv, hw] at hv
    cases hv
    exact hc

/-! ## The cache cell -/

/-- `PREPROC_ENV_CONFIG` holds, once set, what `read_config_env` reads from the process's
`RGA_CONFIG`. -/
def Coherent (s : Process) : Prop :=
  ∀ v, s.preprocEnvConfig = some v → readConfigEnv deps s.env = .ok v

theorem Coherent.of_eq {s s' : Process} (h : Coherent deps s) (he : s'.env = s.env)
    (hc : s'.preprocEnvConfig = s.preprocEnvConfig) : Coherent deps s' := by
  intro v hv
  rw [he]
  exact h v (hc ▸ hv)

/-- In a coherent state the cached read is the uncached one, and leaves the state coherent. -/
theorem readConfigEnvCached_spec {s : Process} (hs : Coherent deps s) :
    (readConfigEnvCached deps s).1 = readConfigEnv deps s.env ∧
    (readConfigEnvCached deps s).2.env = s.env ∧ Coherent deps (readConfigEnvCached deps s).2 := by
  unfold readConfigEnvCached
  cases hc : s.preprocEnvConfig with
  | some v => exact ⟨(hs v hc).symm, rfl, hs⟩
  | none =>
    cases he : readConfigEnv deps s.env with
    | ok v => exact ⟨rfl, rfl, fun w hw => by cases hw; exact he⟩
    | error e => exact ⟨rfl, rfl, hs⟩

/-! ## What `parse_args` computes -/

theorem mergedConfig_preproc (D : RgaConfig A) (s : Process) :
    (mergedConfig deps D true s).2 = (readConfigEnvCached deps s).2 ∧
    ∀ M, (mergedConfig deps D true s).1 = .ok M → ∃ E, (readConfigEnvCached deps s).1 = .ok E ∧
      M = jsonMerge E (RgaConfig.toValue deps.cacheDir deps.adapter D) := by
  unfold mergedConfig
  rcases readConfigEnvCached deps s with ⟨e | E, s₁⟩
  · exact ⟨rfl, nofun⟩
  · exact ⟨rfl, fun M hM => ⟨E, rfl, by cases hM; rfl⟩⟩

theorem mergedConfig_full (D : RgaConfig A) (s : Process) :
    (mergedConfig deps D false s).2.env = s.env ∧
    (mergedConfig deps D false s).2.preprocEnvConfig = s.preprocEnvConfig ∧
    ∀ M, (mergedConfig deps D false s).1 = .ok M →
      ∃ n F E, (readConfigFile deps D.configFilePath s).1 = .ok (n, F) ∧
        readConfigEnv deps s.env = .ok E ∧
        M = jsonMerge (jsonMerge F E) (RgaConfig.toValue deps.cacheDir deps.adapter D) := by
  obtain ⟨h₁, h₂, -⟩ := readConfigFile_spec deps D.configFilePath s
  unfold mergedConfig
  rcases hr : readConfigFile deps D.configFilePath s with ⟨e | ⟨n, F⟩, s₁⟩ <;> rw [hr] at h₁ h₂
  · exact ⟨h₁, h₂, nofun⟩
  · dsimp only
    rw [h₁]
    cases he : readConfigEnv deps s.env with
    | error e => exact ⟨h₁, h₂, nofun⟩
    | ok E => exact ⟨h₁, h₂, fun M hM => ⟨n, F, E, rfl, rfl, by cases hM; rfl⟩⟩

/-- Both modes merge the arguments' document last. -/
theorem mergedConfig_eq_jsonMerge {D : RgaConfig A} {mode : Bool} {s : Process} {M : Value}
    (h : (mergedConfig deps D mode s).1 = .ok M) :
    ∃ X, M = jsonMerge X (RgaConfig.toValue deps.cacheDir deps.adapter D) := by
  cases mode
  · obtain ⟨n, F, E, -, -, rfl⟩ := (mergedConfig_full deps D s).2.2 M h
    exact ⟨_, rfl⟩
  · obtain ⟨E, -, rfl⟩ := (mergedConfig_preproc deps D s).2 M h
    exact ⟨_, rfl⟩

theorem readConfigFile_error {o : Option String} {s : Process} {e : ConfigError}
    (h : (readConfigFile deps o s).1 = .error e) (msg : String) : e ≠ .mergedConfig msg := by
  unfold readConfigFile at h
  dsimp only at h
  split at h
  · cases h; nofun
  · split at h <;> cases h <;> nofun
  · split at h
    · cases h; nofun
    · rcases hw : writeDefaults deps s with ⟨_ | _, _⟩ <;> rw [hw] at h <;> cases h
      nofun

theorem readConfigEnv_error {env : Option String} {e : ConfigError}
    (h : readConfigEnv deps env = .error e) : e = .parseEnv := by
  unfold readConfigEnv at h
  split at h
  · split at h
    · cases h
    · cases h; rfl
  · cases h

theorem readConfigEnvCached_error {s : Process} {e : ConfigError}
    (h : (readConfigEnvCached deps s).1 = .error e) : readConfigEnv deps s.env = .error e := by
  unfold readConfigEnvCached at h
  split at h
  · cases h
  · split at h <;> cases h; assumption

/-- The merge fails only with the readers' errors. -/
theorem mergedConfig_error {D : RgaConfig A} {mode : Bool} {s : Process} {e : ConfigError}
    (h : (mergedConfig deps D mode s).1 = .error e) (msg : String) : e ≠ .mergedConfig msg := by
  unfold mergedConfig at h
  cases mode <;> simp only [Bool.false_eq_true, ↓reduceIte] at h
  · rcases hr : readConfigFile deps D.configFilePath s with ⟨e' | ⟨n, F⟩, s₁⟩ <;> rw [hr] at h
    · cases h
      exact readConfigFile_error deps (by rw [hr]) msg
    · dsimp only at h
      cases he : readConfigEnv deps s₁.env <;> rw [he] at h <;> cases h
      rw [readConfigEnv_error deps he]
      nofun
  · rcases hr : readConfigEnvCached deps s with ⟨e' | v, s₁⟩ <;> rw [hr] at h <;> cases h
    have he := readConfigEnvCached_error deps (show (readConfigEnvCached deps s).1 = .error e by rw [hr])
    rw [readConfigEnv_error deps he]
    nofun

/-- Everything `parse_args` can do once `clap` returns a draft: fail as the merge fails, or read the
merged document back, re-adding five of the six `#[serde(skip)]` fields, or fail on it. -/
theorem parseArgs_eq_some {args : List OsString} {mode : Bool} {s s' : Process}
    {r : Except ConfigError (RgaConfig A)} (h : parseArgs deps args mode s = some (r, s')) :
    ∃ D, deps.clap.parseFrom args = some D ∧ s' = (mergedConfig deps D mode s).2 ∧
      ((∃ e, (mergedConfig deps D mode s).1 = .error e ∧ r = .error e) ∨
       ∃ M, (mergedConfig deps D mode s).1 = .ok M ∧
        ((∃ res, RgaConfig.fromValue deps.cacheDir deps.adapter M = .ok res ∧
          r = .ok { res with
            fzfPath := D.fzfPath, listAdapters := D.listAdapters,
            printConfigSchema := D.printConfigSchema, rgHelp := D.rgHelp, rgVersion := D.rgVersion }) ∨
         (∃ err, RgaConfig.fromValue deps.cacheDir deps.adapter M = .error err ∧
          r = .error (.mergedConfig (deps.toStringPretty M))))) := by
  obtain ⟨D, hD, h⟩ := Option.map_eq_some'.1 h
  refine ⟨D, hD, ?_⟩
  rcases hm : mergedConfig deps D mode s with ⟨e | M, s₁⟩ <;> rw [hm] at h <;> dsimp only at h
  · cases h
    exact ⟨rfl, .inl ⟨e, rfl, rfl⟩⟩
  · cases hv : RgaConfig.fromValue deps.cacheDir deps.adapter M with
    | ok res =>
      rw [hv] at h
      cases h
      exact ⟨rfl, .inr ⟨M, rfl, .inl ⟨res, hv, rfl⟩⟩⟩
    | error err =>
      rw [hv] at h
      cases h
      exact ⟨rfl, .inr ⟨M, rfl, .inr ⟨err, hv, rfl⟩⟩⟩

/-- A call of `parse_args` that returns a configuration: the merged document read back, with the
fields `parse_args` takes from the draft put back. -/
theorem parseArgs_eq_ok {args : List OsString} {mode : Bool} {s s' : Process} {D R : RgaConfig A}
    (hD : deps.clap.parseFrom args = some D) (h : parseArgs deps args mode s = some (.ok R, s')) :
    ∃ M res, (mergedConfig deps D mode s).1 = .ok M ∧
      RgaConfig.fromValue deps.cacheDir deps.adapter M = .ok res ∧
      R = { res with
        fzfPath := D.fzfPath, listAdapters := D.listAdapters,
        printConfigSchema := D.printConfigSchema, rgHelp := D.rgHelp, rgVersion := D.rgVersion } := by
  obtain ⟨D', hD', -, ⟨e, -, he⟩ | ⟨M, hM, ⟨res, hres, hR⟩ | ⟨err, -, he⟩⟩⟩ := parseArgs_eq_some deps h
  · cases he
  · rw [hD] at hD'
    cases hD'
    cases hR
    exact ⟨M, res, hM, hres, rfl⟩
  · cases he

/-! ## Runs of a process -/

/-- A call of `parse_args` changes neither `RGA_CONFIG` nor the coherence of the cache cell. -/
theorem parseArgs_coherent {args : List OsString} {mode : Bool} {s s' : Process}
    {r : Except ConfigError (RgaConfig A)} (hs : Coherent deps s)
    (h : parseArgs deps args mode s = some (r, s')) : s'.env = s.env ∧ Coherent deps s' := by
  obtain ⟨D, -, rfl, -⟩ := parseArgs_eq_some deps h
  cases mode
  · obtain ⟨h₁, h₂, -⟩ := mergedConfig_full deps D s
    exact ⟨h₁, hs.of_eq deps h₁ h₂⟩
  · rw [(mergedConfig_preproc deps D s).1]
    exact (readConfigEnvCached_spec deps hs).2

/-- The states of a process that starts with `PREPROC_ENV_CONFIG` empty and calls `parse_args`. -/
inductive Reachable : Process → Prop
  | init (env : Option String) (files : String → Option (Option String)) :
      Reachable ⟨env, files, none⟩
  | step {s s' : Process} {r : Except ConfigError (RgaConfig A)} (args : List OsString) (mode : Bool) :
      Reachable s → parseArgs deps args mode s = some (r, s') → Reachable s'

theorem Reachable.coherent {s : Process} (h : Reachable deps s) : Coherent deps s := by
  induction h with
  | init => nofun
  | step _ _ _ hp ih => exact (parseArgs_coherent deps ih hp).2

/-- In every state a process reaches, the cached read of `RGA_CONFIG` is the uncached one. -/
theorem Reachable.readConfigEnvCached {s : Process} (h : Reachable deps s) :
    (readConfigEnvCached deps s).1 = readConfigEnv deps s.env :=
  (readConfigEnvCached_spec deps h.coherent).1

/-! ## The merged document -/

/-- In a coherent state, with `RGA_CONFIG` valid, every merged document reads as a configuration. -/
theorem mergedConfig_accepts {D : RgaConfig A} {mode : Bool} {s : Process} {M : Value}
    (hs : Coherent deps s) (hE : EnvValid deps s.env) (hD : D.customAdapters = none)
    (h : (mergedConfig deps D mode s).1 = .ok M) :
    ∃ c, RgaConfig.fromValue deps.cacheDir deps.adapter M = .ok c := by
  have hA := fromValue_toValue_draft deps hD
  cases mode
  · obtain ⟨n, F, E, hF, hEv, rfl⟩ := (mergedConfig_full deps D s).2.2 M h
    exact RgaConfig.fromValue_jsonMerge _ _
      (RgaConfig.fromValue_jsonMerge _ _ ((readConfigFile_spec deps _ s).2.2 n F hF)
        (readConfigEnv_accepts deps hE hEv)) ⟨_, hA⟩
  · obtain ⟨E, hEv, rfl⟩ := (mergedConfig_preproc deps D s).2 M h
    rw [(readConfigEnvCached_spec deps hs).1] at hEv
    exact RgaConfig.fromValue_jsonMerge _ _ (readConfigEnv_accepts deps hE hEv) ⟨_, hA⟩

/-- Valid layers merge to a valid document: `json_merge` of two documents that read as an
`RgaConfig` reads as one, and so in every state a process reaches, with `RGA_CONFIG` unset or
valid, `parse_args` never fails on the merged document, in either mode. -/
theorem parseArgs_merged_valid :
    (∀ a b : Value, (∃ x, RgaConfig.fromValue deps.cacheDir deps.adapter a = .ok x) →
      (∃ y, RgaConfig.fromValue deps.cacheDir deps.adapter b = .ok y) →
      ∃ z, RgaConfig.fromValue deps.cacheDir deps.adapter (jsonMerge a b) = .ok z) ∧
    ∀ args mode s r s', Reachable deps s → EnvValid deps s.env →
      parseArgs deps args mode s = some (r, s') → ∀ msg, r ≠ .error (.mergedConfig msg) := by
  refine ⟨fun a b => RgaConfig.fromValue_jsonMerge _ _, ?_⟩
  rintro args mode s r s' hR hE h msg rfl
  obtain ⟨D, hD, -, ⟨e, he, hee⟩ | ⟨M, hM, ⟨res, -, hres⟩ | ⟨err, herr, -⟩⟩⟩ := parseArgs_eq_some deps h
  · cases hee
    exact mergedConfig_error deps he msg rfl
  · cases hres
  · obtain ⟨c, hc⟩ := mergedConfig_accepts deps hR.coherent hE
      (deps.clap.customAdapters_eq_none _ _ hD) hM
    rw [hc] at herr
    cases herr

/-- What `parse_args` returns in the six `#[serde(skip)]` fields: the draft's value in the five the
code re-adds, and `None` in `config_file_path`, which it does not. -/
theorem parseArgs_skipped {args : List OsString} {mode : Bool} {s s' : Process} {D R : RgaConfig A}
    (hD : deps.clap.parseFrom args = some D) (h : parseArgs deps args mode s = some (.ok R, s')) :
    R.configFilePath = none ∧ R.fzfPath = D.fzfPath ∧ R.listAdapters = D.listAdapters ∧
      R.printConfigSchema = D.printConfigSchema ∧ R.rgHelp = D.rgHelp ∧ R.rgVersion = D.rgVersion := by
  obtain ⟨M, res, hM, hres, rfl⟩ := parseArgs_eq_ok deps hD h
  obtain ⟨X, rfl⟩ := mergedConfig_eq_jsonMerge deps hM
  obtain ⟨m, hm⟩ := eq_object_of_isObject (isObject_merge X.json
    (show (RgaConfig.toValue deps.cacheDir deps.adapter D).json.isObject = true from rfl))
  unfold RgaConfig.fromValue at hres
  rw [jsonMerge_json, hm] at hres
  exact ⟨(RgaConfig.skipAtDefault_of_object _ _ hres).1, rfl, rfl, rfl, rfl, rfl⟩

end Resolve

/-! ## A sample run -/

/-- A setting for sample runs: `clap` gives `draft` for every command line, and `serde_json` reads
the texts listed in `texts`. -/
def sampleDeps (draft : RgaConfig Unit) (texts : List (String × Value)) : Deps Unit where
  cacheDir := "/cache"
  configFile := "/config/config.jsonc"
  schemaFile := "/config/config.v1.schema.json"
  adapter := unitCodec
  clap := ⟨fun _ => some { draft with customAdapters := none }, fun _ _ h => by cases h; rfl⟩
  fromStr := texts.lookup
  stripComments := id
  toStringPretty := fun _ => ""
  schemaText := ""
  defaultConfigText := ""
  configDirError := none
  writeFault := fun _ => none

/-- The draft of `rga --rga-config-file=/etc/rga.jsonc`. -/
def configFileDraft : RgaConfig Unit :=
  { RgaConfig.default "/cache" with configFilePath := some "/etc/rga.jsonc" }

/-- `rga --rga-config-file=/etc/rga.jsonc` with that file holding `{}`: `parse_args` reads the file
and returns a configuration whose `config_file_path` is `None`. -/
theorem parseArgs_drops_configFilePath :
    (parseArgs (sampleDeps configFileDraft [("{}", ⟨.object [], rfl⟩)])
      [.ofString "rga", .ofString "--rga-config-file=/etc/rga.jsonc"] false
      ⟨none, fun p => if p = "/etc/rga.jsonc" then some (some "{}") else none, none⟩).map
      (fun r => r.1.toOption.map (·.configFilePath)) = some (some none) :=
  rfl

end RipgrepAll
