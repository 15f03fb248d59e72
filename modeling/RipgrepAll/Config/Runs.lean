/-
Runs of `parse_args` in one process. A call writes no file, or, in `rga`'s mode without
`--rga-config-file` while the default config file is missing, makes the first run's writes: the
config directory, the schema and the default config, stopped by the first that fails. Over a
whole run the files change at most once, since a path the file system fails to write fails the
same way again. The preprocessor's mode reads and writes no file. `RGA_CONFIG` never changes and
`PREPROC_ENV_CONFIG`, once set, keeps its document. In every state a process reaches the cell is
invisible: each call returns what it returns with the cell empty. Coherence is exact: the states a
process reaches are the coherent ones. So the result of a call is fixed along a run: the
preprocessor's from the start, `rga`'s once the default config file exists. An `RGA_CONFIG` holding
UTF-8 text that is not JSON fails every call. `rga-preproc` reads back `rga`'s configuration: with
`RGA_CONFIG` holding the document `rga`'s call merged, a call with the same arguments returns what
`rga`'s call returned. On a first run `rga` returns the draft `clap` parsed where the writes
succeed, and their error where one fails. Last, the handoff as `rg` starts the preprocessor, with
no `--rga-` argument: it returns `rga`'s configuration with the five `Option` fields cleared and
the command-line flags reset.
-/
import RipgrepAll.Config.Resolve
import RipgrepAll.Json.MergeLaws

namespace RipgrepAll

open Json

/-! ## Sample runs -/

/-- A process that has not run yet: `RGA_CONFIG` unset, no file, the cell empty. -/
def freshProcess : Process := ⟨none, fun _ => none, none⟩

/-- The document `rga` merges on a first run with `RGA_CONFIG` unset and no config file, for the
draft `RgaConfig::default()`. -/
def firstRunDoc : Value :=
  jsonMerge (jsonMerge ⟨.object [], rfl⟩
      (RgaConfig.toValue "/cache" unitCodec (RgaConfig.default "/cache" : RgaConfig Unit)))
    (RgaConfig.toValue "/cache" unitCodec { (RgaConfig.default "/cache" : RgaConfig Unit) with customAdapters := none })

/-- The parameters of the sample runs: `clap` returns `RgaConfig::default()` and the text `m` reads as
`firstRunDoc`. -/
def firstRunDeps : Deps Unit := sampleDeps (RgaConfig.default "/cache") [("m", firstRunDoc)]

/-- The process after `rga`'s first run in `firstRunDeps`: the two files written. -/
def firstRunState : Process :=
  (freshProcess.write "/config/config.v1.schema.json" "").write "/config/config.jsonc" ""

/-- `firstRunState` after a preprocessor call, the cell filled with the document of an unset
`RGA_CONFIG`. -/
def preprocState : Process :=
  { firstRunState with
    preprocEnvConfig := some (RgaConfig.toValue "/cache" unitCodec (RgaConfig.default "/cache")) }

/-- `firstRunDeps` on a file system where the default config file cannot be created. -/
def readOnlyDeps : Deps Unit :=
  { firstRunDeps with
    writeFault := fun p => if p = "/config/config.jsonc" then
      some (.create "Permission denied (os error 13)") else none }

section Runs

variable {A : Type} (deps : Deps A)

/-! ## What one call does to the process -/

theorem readConfigFile_state (o : Option String) (s : Process) :
    (readConfigFile deps o s).2 = s ∨
      o = none ∧ s.files deps.configFile = none ∧ (readConfigFile deps o s).2 = (writeDefaults deps s).2 := by
  unfold readConfigFile
  dsimp only
  split
  · exact .inl rfl
  · split <;> exact .inl rfl
  · rename_i hf
    cases o with
    | some p => exact .inl rfl
    | none =>
      refine .inr ⟨rfl, hf, ?_⟩
      rcases writeDefaults deps s with ⟨_ | _, _⟩ <;> rfl

theorem readConfigEnvCached_state (s : Process) :
    (readConfigEnvCached deps s).2 = s ∨ s.preprocEnvConfig = none ∧
      ∃ v, (readConfigEnvCached deps s).2 = { s with preprocEnvConfig := some v } := by
  unfold readConfigEnvCached
  split
  · exact .inl rfl
  · split
    · exact .inr ⟨‹_›, _, rfl⟩
    · exact .inl rfl

theorem mergedConfig_full_state (D : RgaConfig A) (s : Process) :
    (mergedConfig deps D false s).2 = (readConfigFile deps D.configFilePath s).2 := by
  simp only [mergedConfig, Bool.false_eq_true, ↓reduceIte]
  rcases readConfigFile deps D.configFilePath s with ⟨_ | _, s₁⟩
  · rfl
  · dsimp only
    split <;> rfl

/-- One call of `parse_args` writes no file, except in `rga`'s mode without `--rga-config-file`
while the default config file is missing: it then leaves the process as the first run's writes
do, whether they succeed or fail. -/
theorem parseArgs_files {args : List OsString} {mode : Bool} {s s' : Process}
    {r : Except ConfigError (RgaConfig A)} (h : parseArgs deps args mode s = some (r, s')) :
    s'.files = s.files ∨
      ∃ D, deps.clap.parseFrom args = some D ∧ mode = false ∧ D.configFilePath = none ∧
        s.files deps.configFile = none ∧ s' = (writeDefaults deps s).2 := by
  obtain ⟨D, hD, rfl, -⟩ := parseArgs_eq_some deps h
  cases mode with
  | false =>
    rw [mergedConfig_full_state]
    rcases readConfigFile_state deps D.configFilePath s with h₁ | ⟨h₀, hf, h₁⟩
    · exact .inl (congrArg Process.files h₁)
    · exact .inr ⟨D, hD, rfl, h₀, hf, h₁⟩
  | true =>
    left
    rw [(mergedConfig_preproc deps D s).1]
    rcases readConfigEnvCached_state deps s with h₁ | ⟨-, v, h₁⟩ <;> rw [h₁]

/-! ## The preprocessor touches no file -/

theorem readConfigEnvCached_withFiles (s : Process) (files : String → Option (Option String)) :
    readConfigEnvCached deps { s with files := files } =
      ((readConfigEnvCached deps s).1, { (readConfigEnvCached deps s).2 with files := files }) := by
  rcases s with ⟨env, _, _ | v⟩
  · unfold readConfigEnvCached
    cases readConfigEnv deps env <;> rfl
  · rfl

/-- The preprocessor's `parse_args` reads no file and writes none: from a process with other files
it returns the same, and leaves the same process but for those files, which it leaves as they are. -/
theorem parseArgs_preproc_files (args : List OsString) (s : Process)
    (files : String → Option (Option String)) :
    parseArgs deps args true { s with files := files } =
      (parseArgs deps args true s).map fun p => (p.1, { p.2 with files := files }) := by
  simp only [parseArgs, mergedConfig, ↓reduceIte, readConfigEnvCached_withFiles, Option.map_map]
  congr 1
  funext D
  rcases readConfigEnvCached deps s with ⟨_ | _, _⟩
  · rfl
  · dsimp only [Function.comp_apply]
    split <;> rfl

/-! ## The cache cell is invisible -/

theorem writeDefaults_withCell (s : Process) (c : Option Value) :
    writeDefaults deps { s with preprocEnvConfig := c } =
      ((writeDefaults deps s).1, { (writeDefaults deps s).2 with preprocEnvConfig := c }) := by
  unfold writeDefaults writeFile
  rcases deps.configDirError with _ | _ <;> rcases deps.writeFault deps.schemaFile with _ | _ | _ <;>
    rcases deps.writeFault deps.configFile with _ | _ | _ <;> rfl

theorem readConfigFile_withCell (o : Option String) (s : Process) (c : Option Value) :
    readConfigFile deps o { s with preprocEnvConfig := c } =
      ((readConfigFile deps o s).1, { (readConfigFile deps o s).2 with preprocEnvConfig := c }) := by
  unfold readConfigFile
  dsimp only
  cases s.files (o.getD deps.configFile) with
  | none =>
    cases o
    · rw [writeDefaults_withCell]
      rcases writeDefaults deps s with ⟨_ | _, _⟩ <;> rfl
    · rfl
  | some x =>
    cases x with
    | none => rfl
    | some raw =>
      dsimp only
      split <;> rfl

theorem mergedConfig_full_withCell (D : RgaConfig A) (s : Process) (c : Option Value) :
    (mergedConfig deps D false { s with preprocEnvConfig := c }).1 = (mergedConfig deps D false s).1 := by
  simp only [mergedConfig, Bool.false_eq_true, ↓reduceIte, readConfigFile_withCell]
  rcases readConfigFile deps D.configFilePath s with ⟨_ | _, s₁⟩
  · rfl
  · dsimp only
    split <;> rfl

theorem mergedConfig_preproc_fst (D : RgaConfig A) (s : Process) :
    (mergedConfig deps D true s).1 =
      (readConfigEnvCached deps s).1.map (jsonMerge · (RgaConfig.toValue deps.cacheDir deps.adapter D)) := by
  unfold mergedConfig
  rcases readConfigEnvCached deps s with ⟨_ | _, _⟩ <;> rfl

theorem parseArgs_fst_eq {args : List OsString} {m₁ m₂ : Bool} {s t : Process} {D : RgaConfig A}
    (hD : deps.clap.parseFrom args = some D)
    (h : (mergedConfig deps D m₁ s).1 = (mergedConfig deps D m₂ t).1) :
    (parseArgs deps args m₁ s).map Prod.fst = (parseArgs deps args m₂ t).map Prod.fst := by
  simp only [parseArgs, hD, Option.map_some']
  generalize mergedConfig deps D m₁ s = x at h ⊢
  generalize mergedConfig deps D m₂ t = y at h ⊢
  rcases x with ⟨_ | M, _⟩ <;> rcases y with ⟨_ | _, _⟩ <;> cases h
  · rfl
  · dsimp only
    cases RgaConfig.fromValue deps.cacheDir deps.adapter M <;> rfl

/-- In every state a process reaches, `PREPROC_ENV_CONFIG` is invisible: each call of `parse_args`,
in either mode, returns what it returns from the same state with the cell empty. -/
theorem parseArgs_cell_invisible {s : Process} (hs : Reachable deps s) (args : List OsString)
    (mode : Bool) :
    (parseArgs deps args mode s).map Prod.fst =
      (parseArgs deps args mode { s with preprocEnvConfig := none }).map Prod.fst := by
  cases hD : deps.clap.parseFrom args with
  | none => simp only [parseArgs, hD, Option.map_none']
  | some D =>
    refine parseArgs_fst_eq deps hD ?_
    cases mode with
    | false => exact (mergedConfig_full_withCell deps D s none).symm
    | true =>
      have hempty : Coherent deps { s with preprocEnvConfig := none } := nofun
      rw [mergedConfig_preproc_fst, mergedConfig_preproc_fst, hs.readConfigEnvCached,
        (readConfigEnvCached_spec deps hempty).1]

theorem parseArgs_cell_invisible_preproc :
    Reachable firstRunDeps ⟨some "m", fun _ => none, some firstRunDoc⟩ ∧
      (parseArgs firstRunDeps [] true ⟨some "m", fun _ => none, some firstRunDoc⟩).map Prod.fst =
        (parseArgs firstRunDeps [] true ⟨some "m", fun _ => none, none⟩).map Prod.fst :=
  have h : Reachable firstRunDeps ⟨some "m", fun _ => none, some firstRunDoc⟩ :=
    .step [] true (.init (some "m") fun _ => none) rfl
  ⟨h, parseArgs_cell_invisible _ h [] true⟩

/-! ## The reachable states -/

theorem parseArgs_preproc_fills (env : Option String) (files : String → Option (Option String))
    {args : List OsString} {D : RgaConfig A} {v : Value} (hD : deps.clap.parseFrom args = some D)
    (hv : readConfigEnv deps env = .ok v) :
    ∃ r, parseArgs deps args true ⟨env, files, none⟩ = some (r, ⟨env, files, some v⟩) := by
  simp only [parseArgs, hD, Option.map_some', mergedConfig, ↓reduceIte, readConfigEnvCached, hv]
  split <;> exact ⟨_, rfl⟩

/-- The states a process reaches are exactly the coherent ones, where `clap` accepts some command
line: the cell empty, with any `RGA_CONFIG` and any files, or holding what `read_config_env` reads. -/
theorem reachable_iff_coherent (hclap : ∃ args D, deps.clap.parseFrom args = some D) (s : Process) :
    Reachable deps s ↔ Coherent deps s := by
  refine ⟨Reachable.coherent deps, fun hs => ?_⟩
  obtain ⟨args, D, hD⟩ := hclap
  rcases s with ⟨env, files, _ | v⟩
  · exact .init env files
  · obtain ⟨r, hr⟩ := parseArgs_preproc_fills deps env files hD (hs v rfl)
    exact .step args true (.init env files) hr

theorem reachable_iff_coherent_preproc :
    (∃ args D, firstRunDeps.clap.parseFrom args = some D) ∧
      (Reachable firstRunDeps ⟨some "m", fun _ => none, some firstRunDoc⟩ ↔
        Coherent firstRunDeps ⟨some "m", fun _ => none, some firstRunDoc⟩) :=
  have h : ∃ args D, firstRunDeps.clap.parseFrom args = some D := ⟨[], _, rfl⟩
  ⟨h, reachable_iff_coherent firstRunDeps h _⟩

/-! ## Whole runs -/

/-- `s'` is a state of the process after calls of `parse_args` from `s`. -/
inductive Steps : Process → Process → Prop
  | refl (s : Process) : Steps s s
  | step {s s₁ s' : Process} {r : Except ConfigError (RgaConfig A)} (args : List OsString)
      (mode : Bool) : parseArgs deps args mode s = some (r, s₁) → Steps s₁ s' → Steps s s'

theorem parseArgs_env_cell {args : List OsString} {mode : Bool} {s s' : Process}
    {r : Except ConfigError (RgaConfig A)} (h : parseArgs deps args mode s = some (r, s')) :
    s'.env = s.env ∧ ∀ v, s.preprocEnvConfig = some v → s'.preprocEnvConfig = some v := by
  obtain ⟨D, -, rfl, -⟩ := parseArgs_eq_some deps h
  cases mode with
  | false =>
    obtain ⟨h₁, h₂, -⟩ := mergedConfig_full deps D s
    exact ⟨h₁, fun v hv => h₂.trans hv⟩
  | true =>
    rw [(mergedConfig_preproc deps D s).1]
    rcases readConfigEnvCached_state deps s with h₁ | ⟨hc, w, h₁⟩ <;> rw [h₁]
    · exact ⟨rfl, fun _ => id⟩
    · exact ⟨rfl, fun v hv => absurd (hc.symm.trans hv) nofun⟩

/-- Along every run `RGA_CONFIG` stays as it was, and `PREPROC_ENV_CONFIG`, once set, keeps its
document: `OnceCell::set` on a full cell changes nothing. -/
theorem Steps.env_cell_kept {s s' : Process} (h : Steps deps s s') :
    s'.env = s.env ∧ ∀ v, s.preprocEnvConfig = some v → s'.preprocEnvConfig = some v := by
  induction h with
  | refl => exact ⟨rfl, fun _ => id⟩
  | step _ _ hp _ ih =>
    obtain ⟨he, hc⟩ := parseArgs_env_cell deps hp
    exact ⟨ih.1.trans he, fun v hv => ih.2 v (hc v hv)⟩

theorem Steps.env_cell_kept_preproc :
    Steps firstRunDeps ⟨some "m", fun _ => none, none⟩ ⟨some "m", fun _ => none, some firstRunDoc⟩ ∧
      (some "m" = some "m" ∧ ∀ v, none = some v → some firstRunDoc = some v) :=
  have h : Steps firstRunDeps ⟨some "m", fun _ => none, none⟩
      ⟨some "m", fun _ => none, some firstRunDoc⟩ :=
    .step [] true rfl (.refl _)
  ⟨h, Steps.env_cell_kept _ h⟩

theorem writeDefaults_files {s t : Process} (h : s.files = t.files) :
    (writeDefaults deps s).2.files = (writeDefaults deps t).2.files := by
  obtain ⟨e, f, c⟩ := s
  obtain ⟨e', f', c'⟩ := t
  cases show f = f' from h
  unfold writeDefaults writeFile
  rcases deps.configDirError with _ | _ <;> rcases deps.writeFault deps.schemaFile with _ | _ | _ <;>
    rcases deps.writeFault deps.configFile with _ | _ | _ <;> rfl

/-- A second attempt at the first run's writes, from the files the first left, leaves the same
files: each path fails, or is written, as it was the first time. -/
theorem writeDefaults_twice (s : Process) :
    (writeDefaults deps (writeDefaults deps s).2).2.files = (writeDefaults deps s).2.files := by
  unfold writeDefaults writeFile
  rcases deps.configDirError with _ | _
  · rcases deps.writeFault deps.schemaFile with _ | _ | _ <;>
      rcases deps.writeFault deps.configFile with _ | _ | _ <;>
      simp only [Process.write] <;> funext p <;> split_ifs <;> rfl
  · rfl

/-- Over a whole run the files change at most once, and only where the default config file was
missing: every later state has the files of the first, or those files as the first run's writes
leave them. A failing write ends the writes; where it leaves the config file missing, a later call
tries again and the file system fails it the same way. -/
theorem Steps.files_once {s s' : Process} (h : Steps deps s s') :
    s'.files = s.files ∨ s.files deps.configFile = none ∧ s'.files = (writeDefaults deps s).2.files := by
  induction h with
  | refl => exact .inl rfl
  | @step s s₁ s' _ _ _ hp _ ih =>
    rcases parseArgs_files deps hp with h₁ | ⟨D, -, -, -, hf, rfl⟩
    · exact ih.imp (fun h => h.trans h₁) fun ⟨hf, h⟩ => ⟨h₁ ▸ hf, h.trans (writeDefaults_files deps h₁)⟩
    · rw [writeDefaults_twice] at ih
      exact .inr ⟨hf, ih.elim id And.right⟩

theorem Steps.files_once_readOnly :
    Steps readOnlyDeps freshProcess (freshProcess.write "/config/config.v1.schema.json" "") ∧
      ((freshProcess.write "/config/config.v1.schema.json" "").files = freshProcess.files ∨
        freshProcess.files readOnlyDeps.configFile = none ∧
        (freshProcess.write "/config/config.v1.schema.json" "").files =
          (writeDefaults readOnlyDeps freshProcess).2.files) :=
  have h : Steps readOnlyDeps freshProcess (freshProcess.write "/config/config.v1.schema.json" "") :=
    .step [] false rfl (.refl _)
  ⟨h, Steps.files_once _ h⟩

/-! ## Results along a run -/

theorem parseArgs_files_of_configFile {args : List OsString} {mode : Bool} {s s' : Process}
    {r : Except ConfigError (RgaConfig A)} (h : parseArgs deps args mode s = some (r, s'))
    (hf : s.files deps.configFile ≠ none) : s'.files = s.files :=
  (parseArgs_files deps h).resolve_right fun ⟨_, _, _, _, h₀, _⟩ => hf h₀

theorem Steps.frame {s s' : Process} (h : Steps deps s s') (hs : Reachable deps s) :
    Reachable deps s' ∧ s'.env = s.env ∧ (s.files deps.configFile ≠ none → s'.files = s.files) := by
  induction h with
  | refl => exact ⟨hs, rfl, fun _ => rfl⟩
  | step args mode hp _ ih =>
    obtain ⟨hr, he, hf⟩ := ih (.step args mode hs hp)
    have he₁ := (parseArgs_env_cell deps hp).1
    refine ⟨hr, he.trans he₁, fun h₀ => ?_⟩
    have hf₁ := parseArgs_files_of_configFile deps hp h₀
    exact (hf (hf₁ ▸ h₀)).trans hf₁

/-- The result of a call is fixed along a run: from a state the process reaches, the preprocessor's
call with given arguments returns the same at every later state, and so does `rga`'s call once
the default config file exists. -/
theorem Steps.results_stable {s s' : Process} (hs : Reachable deps s) (h : Steps deps s s')
    (args : List OsString) (mode : Bool) (hf : mode = true ∨ s.files deps.configFile ≠ none) :
    (parseArgs deps args mode s').map Prod.fst = (parseArgs deps args mode s).map Prod.fst := by
  obtain ⟨hs', he, hfiles⟩ := h.frame deps hs
  cases hD : deps.clap.parseFrom args with
  | none => simp only [parseArgs, hD, Option.map_none']
  | some D =>
    refine parseArgs_fst_eq deps hD ?_
    cases mode with
    | true =>
      rw [mergedConfig_preproc_fst, mergedConfig_preproc_fst, hs'.readConfigEnvCached,
        hs.readConfigEnvCached, he]
    | false =>
      have hs₁ : s' = { s with preprocEnvConfig := s'.preprocEnvConfig } := by
        rw [← he, ← hfiles (hf.resolve_left nofun)]
      rw [hs₁]
      exact mergedConfig_full_withCell deps D s _

theorem Steps.results_stable_afterFirstRun :
    Reachable firstRunDeps firstRunState ∧ Steps firstRunDeps firstRunState preprocState ∧
      (false = true ∨ firstRunState.files firstRunDeps.configFile ≠ none) ∧
      (parseArgs firstRunDeps [] false preprocState).map Prod.fst =
        (parseArgs firstRunDeps [] false firstRunState).map Prod.fst :=
  have hs : Reachable firstRunDeps firstRunState := .step [] false (.init none fun _ => none) rfl
  have h : Steps firstRunDeps firstRunState preprocState := .step [] true rfl (.refl _)
  have hf : false = true ∨ firstRunState.files firstRunDeps.configFile ≠ none := .inr nofun
  ⟨hs, h, hf, Steps.results_stable _ hs h [] false hf⟩

/-! ## An unreadable `RGA_CONFIG` -/

theorem readConfigEnvCached_unreadable {s : Process} {t : String} (hs : Reachable deps s)
    (he : s.env = some t) (ht : deps.fromStr t = none) :
    s.preprocEnvConfig = none ∧ readConfigEnvCached deps s = (.error .parseEnv, s) := by
  have hE : readConfigEnv deps s.env = .error .parseEnv := by simp only [readConfigEnv, he, ht]
  have hc : s.preprocEnvConfig = none := by
    cases hc : s.preprocEnvConfig with
    | none => rfl
    | some v => exact absurd (Reachable.coherent deps hs v hc) (by rw [hE]; nofun)
  exact ⟨hc, by simp only [readConfigEnvCached, hc, hE]⟩

/-- An `RGA_CONFIG` holding UTF-8 text that is not JSON fails every call. From every state a process
reaches, each call of `parse_args` returns an error and leaves the cell empty; the preprocessor's
call fails with `could not parse config from env RGA_CONFIG` and changes nothing. A value that is
not UTF-8 is another matter: `env::var(..).ok()` reads it as unset. -/
theorem parseArgs_envUnreadable {args : List OsString} {mode : Bool} {s s' : Process}
    {r : Except ConfigError (RgaConfig A)} {t : String} (hs : Reachable deps s)
    (he : s.env = some t) (ht : deps.fromStr t = none) (h : parseArgs deps args mode s = some (r, s')) :
    s'.preprocEnvConfig = none ∧ (∃ e, r = .error e) ∧ (mode = true → r = .error .parseEnv ∧ s' = s) := by
  obtain ⟨hc, hcached⟩ := readConfigEnvCached_unreadable deps hs he ht
  obtain ⟨D, -, rfl, hr⟩ := parseArgs_eq_some deps h
  cases mode with
  | true =>
    have hM : mergedConfig deps D true s = (.error .parseEnv, s) := by
      simp only [mergedConfig, ↓reduceIte, hcached]
    rw [hM] at hr ⊢
    obtain ⟨e, he', rfl⟩ | ⟨M, hM', -⟩ := hr
    · cases he'
      exact ⟨hc, ⟨_, rfl⟩, fun _ => ⟨rfl, rfl⟩⟩
    · cases hM'
  | false =>
    obtain ⟨-, hc', hok⟩ := mergedConfig_full deps D s
    refine ⟨hc'.trans hc, ?_, nofun⟩
    obtain ⟨e, -, rfl⟩ | ⟨M, hM, -⟩ := hr
    · exact ⟨e, rfl⟩
    · obtain ⟨n, F, E, -, hE, -⟩ := hok M hM
      simp only [readConfigEnv, he, ht] at hE
      cases hE

theorem parseArgs_envUnreadable_preproc :
    (⟨some "x", fun _ => none, none⟩ : Process).preprocEnvConfig = none ∧
      (∃ e, (.error .parseEnv : Except ConfigError (RgaConfig Unit)) = .error e) ∧
      (true = true → (.error .parseEnv : Except ConfigError (RgaConfig Unit)) = .error .parseEnv ∧
        (⟨some "x", fun _ => none, none⟩ : Process) = ⟨some "x", fun _ => none, none⟩) :=
  parseArgs_envUnreadable firstRunDeps (.init (some "x") fun _ => none) rfl rfl
    (show parseArgs firstRunDeps [] true ⟨some "x", fun _ => none, none⟩ =
      some (.error .parseEnv, ⟨some "x", fun _ => none, none⟩) from rfl)

/-! ## `rga-preproc` reads back `rga`'s configuration -/

/-- With `RGA_CONFIG` holding the document that `rga`'s call merged, a preprocessor call with the same
arguments, from any state its process reaches, returns what `rga`'s call returned: the arguments'
document, merged a second time over the merge that already ends with it, changes nothing. -/
theorem parseArgs_preproc_agrees {args : List OsString} {s₁ s₂ : Process} {D : RgaConfig A}
    {M : Value} {t : String} (hD : deps.clap.parseFrom args = some D)
    (hM : (mergedConfig deps D false s₁).1 = .ok M) (hs₂ : Reachable deps s₂)
    (he : s₂.env = some t) (ht : deps.fromStr t = some M) :
    (parseArgs deps args true s₂).map Prod.fst = (parseArgs deps args false s₁).map Prod.fst := by
  refine parseArgs_fst_eq deps hD ?_
  obtain ⟨X, rfl⟩ := mergedConfig_eq_jsonMerge deps hM
  have hE : readConfigEnv deps s₂.env = .ok (jsonMerge X (RgaConfig.toValue deps.cacheDir deps.adapter D)) := by
    simp only [readConfigEnv, he, ht]
  rw [hM, mergedConfig_preproc_fst, hs₂.readConfigEnvCached, hE]
  exact congrArg Except.ok (Value.ext' (Json.merge_merge_self X.canonical (Value.canonical _)))

/-! ## The first run -/

/-- `to_value(RgaConfig::default())`, the document of an unset `RGA_CONFIG`: every field under
`skip_serializing_if` is skipped, and the five `Option` fields without it are `null`. -/
theorem toValue_default_json :
    (RgaConfig.toValue deps.cacheDir deps.adapter (RgaConfig.default deps.cacheDir)).json =
      .object [("ffmpeg_extensions", .null), ("postproc_binary_marker", .null),
        ("postproc_page_include_empty", .null), ("postproc_page_prefix", .null),
        ("zip_extensions", .null)] := by
  simp [RgaConfig.toValue, RgaConfig.serialize, objectOf, RgaConfig.entries, skipIf, isDefault,
    RgaConfig.default, serOption]

theorem toValue_default_merge (D : RgaConfig A) :
    jsonMerge (RgaConfig.toValue deps.cacheDir deps.adapter (RgaConfig.default deps.cacheDir))
      (RgaConfig.toValue deps.cacheDir deps.adapter D) = RgaConfig.toValue deps.cacheDir deps.adapter D := by
  have hd := toValue_default_json deps
  have hs := RgaConfig.entries_sorted deps.cacheDir deps.adapter D
  refine Value.ext' ?_
  rw [jsonMerge_json, hd]
  have hk : ∀ k, (∃ w, (k, some w) ∈ RgaConfig.entries deps.cacheDir deps.adapter D) →
      (((RgaConfig.entries deps.cacheDir deps.adapter D).filterMap
        fun (e : String × Option Json) => e.2.map (e.1, ·)).lookup k).isSome := by
    rintro k ⟨w, hw⟩
    rw [lookup_objectOf hs hw]
    rfl
  refine Json.merge_eq_right (Json.canonical_object_sorted (hd ▸ Value.canonical _))
    (keysSorted_objectOf hs) fun p hp => ?_
  simp only [List.mem_cons, List.mem_singleton, List.not_mem_nil, or_false] at hp
  rcases hp with rfl | rfl | rfl | rfl | rfl <;> exact ⟨rfl, hk _ (by simp [RgaConfig.entries])⟩

/-- A first run of `rga`: no config file at the default path, `RGA_CONFIG` unset and no
`--rga-config-file`. `parse_args` makes the first run's writes and does not read what they wrote:
where they succeed it returns the draft `clap` parsed with `config_file_path` reset, and where one
fails it returns that `io::Error`; either way the process is left as the writes left it. -/
theorem parseArgs_firstRun {args : List OsString} {D : RgaConfig A} {s : Process}
    (hD : deps.clap.parseFrom args = some D) (hc : D.configFilePath = none) (he : s.env = none)
    (hf : s.files deps.configFile = none) :
    parseArgs deps args false s = some (match (writeDefaults deps s).1 with
      | .ok () => .ok { D with configFilePath := none }
      | .error msg => .error (.io msg), (writeDefaults deps s).2) := by
  have hd := toValue_default_json deps
  have hE : jsonMerge ⟨.object [], rfl⟩
      (RgaConfig.toValue deps.cacheDir deps.adapter (RgaConfig.default deps.cacheDir)) =
      RgaConfig.toValue deps.cacheDir deps.adapter (RgaConfig.default deps.cacheDir) := by
    refine Value.ext' ?_
    rw [jsonMerge_json, hd]
    exact Json.merge_eq_right .nil (Json.canonical_object_sorted (hd ▸ Value.canonical _)) nofun
  rcases hw : writeDefaults deps s with ⟨msg | _, s₁⟩ <;>
    simp only [parseArgs, hD, Option.map_some', mergedConfig, Bool.false_eq_true, ↓reduceIte,
      readConfigFile, hc, Option.getD_none, hf, hw]
  have he₁ : s₁.env = none := by rw [← he, ← writeDefaults_env deps s, hw]
  simp only [he₁, readConfigEnv, hE, toValue_default_merge,
    fromValue_toValue_draft deps (deps.clap.customAdapters_eq_none _ _ hD)]
  cases D
  rfl

/-! ## The handoff from `rga` to `rga-preproc` -/

theorem parseArgs_fst_of_fromValue {args : List OsString} {mode : Bool} {s : Process}
    {D res : RgaConfig A} {M : Value} (hD : deps.clap.parseFrom args = some D)
    (hM : (mergedConfig deps D mode s).1 = .ok M)
    (hres : RgaConfig.fromValue deps.cacheDir deps.adapter M = .ok res) :
    (parseArgs deps args mode s).map Prod.fst = some (.ok { res with
      fzfPath := D.fzfPath, listAdapters := D.listAdapters, printConfigSchema := D.printConfigSchema,
      rgHelp := D.rgHelp, rgVersion := D.rgVersion }) := by
  simp only [parseArgs, hD, Option.map_some']
  generalize mergedConfig deps D mode s = x at hM ⊢
  rcases x with ⟨_ | _, _⟩ <;> cases hM
  dsimp only
  rw [hres]

/-- The handoff from `rga` to `rga-preproc`. With `RGA_CONFIG` holding the document `rga`'s call
merged, and arguments that set nothing, as `rg` starts the preprocessor, the preprocessor's call
returns `rga`'s configuration with the five `Option` fields cleared and the command-line flags
reset, from every state its process reaches. -/
theorem parseArgs_handoff {args₀ args : List OsString} {s₀ s₀' s : Process} {D₀ R₀ : RgaConfig A}
    {M : Value} {t : String} (hD₀ : deps.clap.parseFrom args₀ = some D₀)
    (hM : (mergedConfig deps D₀ false s₀).1 = .ok M)
    (h₀ : parseArgs deps args₀ false s₀ = some (.ok R₀, s₀'))
    (hD : deps.clap.parseFrom args = some (RgaConfig.default deps.cacheDir))
    (hs : Reachable deps s) (he : s.env = some t) (ht : deps.fromStr t = some M) :
    (parseArgs deps args true s).map Prod.fst = some (.ok { R₀ with
      zipExtensions := none, ffmpegExtensions := none, postprocBinaryMarker := none,
      postprocPagePrefix := none, postprocPageIncludeEmpty := none,
      fzfPath := none, listAdapters := false, printConfigSchema := false, rgHelp := false,
      rgVersion := false }) := by
  obtain ⟨M', res, hM', hres, rfl⟩ := parseArgs_eq_ok deps hD₀ h₀
  rw [hM] at hM'
  cases hM'
  obtain ⟨X, hX⟩ := mergedConfig_eq_jsonMerge deps hM
  obtain ⟨m, hm⟩ : ∃ m, M.json = .object m := eq_object_of_isObject (hX ▸ isObject_merge X.json
    (show (RgaConfig.toValue deps.cacheDir deps.adapter D₀).json.isObject = true from rfl))
  set N : List (String × Json) := [("ffmpeg_extensions", .null), ("postproc_binary_marker", .null),
    ("postproc_page_include_empty", .null), ("postproc_page_prefix", .null),
    ("zip_extensions", .null)] with hNdef
  have hN : (RgaConfig.toValue deps.cacheDir deps.adapter (RgaConfig.default deps.cacheDir)).json =
      .object N := toValue_default_json deps
  have sm := canonical_object_sorted (hm ▸ M.canonical)
  have sN := canonical_object_sorted (hN ▸ Value.canonical _)
  have hkeep : ∀ k, N.lookup k = none → ∀ {α : Type} (de : Json → Except DeError α) (d : α),
      field (mergeEntries m N) k de d = field m k de d := by
    intro k hk α de d
    unfold field
    rw [lookup_mergeEntries k sm sN, hk, mergeOpt_none]
  have hnull : ∀ k, N.lookup k = some .null → ∀ {α : Type} (de : Json → Except DeError α),
      field (mergeEntries m N) k (deOption de) none = .ok none := by
    intro k hk α de
    unfold field
    rw [lookup_mergeEntries k sm sN, hk, mergeOpt_some, merge_of_isObject_right (show Json.null.isObject = false from rfl)]
    rfl
  have hE : (mergedConfig deps (RgaConfig.default deps.cacheDir) true s).1 =
      .ok (jsonMerge M (RgaConfig.toValue deps.cacheDir deps.adapter (RgaConfig.default deps.cacheDir))) := by
    rw [mergedConfig_preproc_fst, hs.readConfigEnvCached, he]
    simp only [readConfigEnv, ht]
    rfl
  unfold RgaConfig.fromValue at hres
  rw [hm] at hres
  obtain ⟨h₁, h₂, h₃, h₄, h₅, h₆, -, -, -, -, -, hskip⟩ := (RgaConfig.deserialize_object _ _).1 hres
  have hres' : RgaConfig.fromValue deps.cacheDir deps.adapter
      (jsonMerge M (RgaConfig.toValue deps.cacheDir deps.adapter (RgaConfig.default deps.cacheDir))) =
      .ok { res with
        zipExtensions := none, ffmpegExtensions := none, postprocBinaryMarker := none,
        postprocPagePrefix := none, postprocPageIncludeEmpty := none } := by
    unfold RgaConfig.fromValue
    rw [jsonMerge_json, hm, hN, merge_object]
    exact (RgaConfig.deserialize_object _ _).2 ⟨(hkeep "accurate" rfl _ _).trans h₁,
      (hkeep "adapters" rfl _ _).trans h₂, (hkeep "cache" rfl _ _).trans h₃,
      (hkeep "max_archive_recursion" rfl _ _).trans h₄, (hkeep "no_prefix_filenames" rfl _ _).trans h₅,
      (hkeep "custom_adapters" rfl _ _).trans h₆, hnull "zip_extensions" rfl _,
      hnull "ffmpeg_extensions" rfl _, hnull "postproc_binary_marker" rfl _,
      hnull "postproc_page_prefix" rfl _, hnull "postproc_page_include_empty" rfl _, hskip⟩
  rw [parseArgs_fst_of_fromValue deps hD hE hres']
  rfl

end Runs

/-- The draft of `rga --rga-accurate --rga-zip-extensions=zip`. -/
def accurateZipDraft : RgaConfig Unit :=
  { RgaConfig.default "/cache" with accurate := true, zipExtensions := some ["zip"] }

/-- The document `rga --rga-accurate --rga-zip-extensions=zip` merges on a first run. -/
def accurateZipDoc : Value :=
  jsonMerge (jsonMerge ⟨.object [], rfl⟩
      (RgaConfig.toValue "/cache" unitCodec (RgaConfig.default "/cache" : RgaConfig Unit)))
    (RgaConfig.toValue "/cache" unitCodec accurateZipDraft)

/-- `clap` reads `accurateZipDraft` from `rga`'s arguments and the default from the preprocessor's,
which hold the program name alone; the text `m` reads as `accurateZipDoc`. -/
def handoffDeps : Deps Unit :=
  { sampleDeps (RgaConfig.default "/cache") [("m", accurateZipDoc)] with
    clap := ⟨fun args => if args.length ≤ 1 then some (RgaConfig.default "/cache") else
      some accurateZipDraft, fun _ _ h => by dsimp only at h; split at h <;> cases h <;> rfl⟩ }

theorem parseArgs_handoff_accurateZip :
    (parseArgs handoffDeps [.ofString "rga-preproc"] true ⟨some "m", fun _ => none, none⟩).map
      Prod.fst = some (.ok { (RgaConfig.default "/cache" : RgaConfig Unit) with accurate := true }) :=
  parseArgs_handoff handoffDeps
    (show handoffDeps.clap.parseFrom [.ofString "rga", .ofString "--rga-accurate",
      .ofString "--rga-zip-extensions=zip"] = some accurateZipDraft from rfl)
    (show (mergedConfig handoffDeps accurateZipDraft false freshProcess).1 = .ok accurateZipDoc from rfl)
    (show parseArgs handoffDeps [.ofString "rga", .ofString "--rga-accurate",
      .ofString "--rga-zip-extensions=zip"] false freshProcess = some (.ok accurateZipDraft,
        (freshProcess.write "/config/config.v1.schema.json" "").write "/config/config.jsonc" "") from rfl)
    (show handoffDeps.clap.parseFrom [.ofString "rga-preproc"] = some (RgaConfig.default "/cache")
      from rfl)
    (.init (some "m") fun _ => none) rfl rfl

theorem parseArgs_firstRun_accurateZip :
    parseArgs handoffDeps [.ofString "rga", .ofString "--rga-accurate",
      .ofString "--rga-zip-extensions=zip"] false freshProcess =
      some (.ok { accurateZipDraft with configFilePath := none }, firstRunState) :=
  parseArgs_firstRun handoffDeps rfl rfl rfl rfl

/-- A config file holding `{"accurate": true}`. -/
def accurateFileDoc : Value := ⟨.object [("accurate", .bool true)], rfl⟩

/-- The draft of `rga --rga-zip-extensions=zip`. -/
def zipDraft : RgaConfig Unit :=
  { (RgaConfig.default "/cache" : RgaConfig Unit) with
    zipExtensions := some ["zip"], customAdapters := none }

/-- The document `rga --rga-zip-extensions=zip` merges over that file, `RGA_CONFIG` unset. -/
def fileArgsDoc : Value :=
  jsonMerge (jsonMerge accurateFileDoc
      (RgaConfig.toValue "/cache" unitCodec (RgaConfig.default "/cache" : RgaConfig Unit)))
    (RgaConfig.toValue "/cache" unitCodec zipDraft)

/-- `clap` reads `zipDraft`; the text `f` reads as the file's document and `m` as the merged one. -/
def fileArgsDeps : Deps Unit := sampleDeps zipDraft [("f", accurateFileDoc), ("m", fileArgsDoc)]

/-- A process whose default config file holds the text `f`. -/
def fileProcess : Process :=
  ⟨none, fun p => if p = "/config/config.jsonc" then some (some "f") else none, none⟩

theorem parseArgs_preproc_agrees_fileArgs :
    (parseArgs fileArgsDeps [] true ⟨some "m", fun _ => none, none⟩).map Prod.fst =
        (parseArgs fileArgsDeps [] false fileProcess).map Prod.fst ∧
      (parseArgs fileArgsDeps [] false fileProcess).map
        (fun r => r.1.toOption.map fun R => (R.accurate, R.zipExtensions)) =
        some (some (true, some ["zip"])) :=
  ⟨parseArgs_preproc_agrees _ rfl rfl (.init _ _) rfl rfl, rfl⟩

end RipgrepAll
