/-
The layered reading of `parse_args`. Each field written under `skip_serializing_if`, and each field
of `cache`, comes back as the draft's value where that is not the default, else as the value of the
topmost layer (`RGA_CONFIG`, then the config file) that holds it, else as the default. This holds
for layers in map form: serde also reads a struct from an array, and such a layer replaces
everything below it. The five `Option` fields written without `skip_serializing_if` do not follow
it: the arguments' document always holds them, `null` where the draft has `None`, so they come from
the command line alone and a value the config file or `RGA_CONFIG` sets is lost.
-/
import RipgrepAll.Config.Resolve
import RipgrepAll.Json.MergeLaws

namespace RipgrepAll

open Json

/-! ## Documents in map form -/

/-- A document in map form: an object whose `cache` entry, if any, is an object. -/
def MapForm (v : Value) : Prop :=
  ∃ m, v.json = .object m ∧ ∀ c, m.lookup "cache" = some c → c.isObject

/-- Every proper prefix of `p` at which `v` is defined holds an object. -/
def ObjectsAbove (v : Json) (p : List String) : Prop :=
  ∀ q, q <+: p → q ≠ p → ∀ w, v.get q = some w → w.isObject

theorem MapForm.jsonMerge {a b : Value} (ha : MapForm a) (hb : MapForm b) :
    MapForm (jsonMerge a b) := by
  obtain ⟨ma, hma, hca⟩ := ha
  obtain ⟨mb, hmb, hcb⟩ := hb
  refine ⟨mergeEntries ma mb, by simp [hma, hmb], fun c hc => ?_⟩
  rw [lookup_mergeEntries "cache" (canonical_object_sorted (hma ▸ a.canonical))
    (canonical_object_sorted (hmb ▸ b.canonical))] at hc
  cases hk : mb.lookup "cache" with
  | none => rw [hk, mergeOpt_none] at hc; exact hca c hc
  | some w => rw [hk, mergeOpt_some] at hc; cases hc; exact isObject_merge _ (hcb w hk)

theorem MapForm.objectsAbove_top {v : Value} (h : MapForm v) (k : String) :
    ObjectsAbove v.json [k] := by
  obtain ⟨m, hm, -⟩ := h
  rintro (_ | ⟨x, q⟩) hq hne w hw
  · simp only [get_nil, Option.some.injEq] at hw
    rw [← hw, hm]; rfl
  · obtain ⟨rfl, hq'⟩ := List.cons_prefix_cons.1 hq
    exact absurd (by rw [List.prefix_nil.1 hq']) hne

theorem MapForm.objectsAbove_cache {v : Value} (h : MapForm v) (k : String) :
    ObjectsAbove v.json ["cache", k] := by
  obtain ⟨m, hm, hc⟩ := h
  rintro (_ | ⟨x, _ | ⟨y, q⟩⟩) hq hne w hw
  · simp only [get_nil, Option.some.injEq] at hw
    rw [← hw, hm]; rfl
  · obtain ⟨rfl, -⟩ := List.cons_prefix_cons.1 hq
    rw [hm, get_object_cons] at hw
    obtain ⟨c, hk, hcw⟩ := Option.bind_eq_some.1 hw
    rw [get_nil, Option.some.injEq] at hcw
    exact hcw ▸ hc c hk
  · obtain ⟨rfl, hq'⟩ := List.cons_prefix_cons.1 hq
    obtain ⟨rfl, hq''⟩ := List.cons_prefix_cons.1 hq'
    exact absurd (by rw [List.prefix_nil.1 hq'']) hne

/-- Where `b` holds no object at `p` and objects above it, the merge holds what `b` holds at `p`,
else what `a` holds. -/
theorem get_jsonMerge {a b : Value} {p : List String} (hb : ObjectsAbove b.json p)
    (hl : ∀ w, b.json.get p = some w → w.isObject = false) :
    (jsonMerge a b).json.get p = (b.json.get p).or (a.json.get p) := by
  cases hbp : b.json.get p with
  | some w => exact get_merge_of_right p a.canonical b.canonical hbp (hl w hbp)
  | none =>
    cases hap : a.json.get p with
    | some v => exact get_merge_of_left p a.canonical b.canonical hap hbp hb
    | none =>
      cases hm : (jsonMerge a b).json.get p with
      | none => rfl
      | some v => rcases get_merge_isSome p a.canonical b.canonical hm with h | h <;> simp_all

/-- The value at `p` of the topmost layer that holds one. -/
def firstGet (p : List String) : List Value → Option Json
  | [] => none
  | l :: ls => (l.json.get p).or (firstGet p ls)

theorem firstGet_append (p : List String) :
    ∀ ls ls' : List Value, firstGet p (ls ++ ls') = (firstGet p ls).or (firstGet p ls')
  | [], _ => rfl
  | l :: ls, ls' => by rw [List.cons_append, firstGet, firstGet, firstGet_append p ls, Option.or_assoc]

section Layers

variable {A : Type} (deps : Deps A)

/-! ## The layered reading -/

/-- The value of field `f` in the layered reading: what the topmost layer holding `p` reads as, or
the default. Layers are listed top first. -/
def layerValue {α : Type} (p : List String) (f : RgaConfig A → α) (dflt : α) : List Value → α
  | [] => dflt
  | l :: ls =>
    if (l.json.get p).isSome then
      ((RgaConfig.fromValue deps.cacheDir deps.adapter l).toOption.map f).getD dflt
    else layerValue p f dflt ls

/-- Field `f` at path `p` resolves by layers: the draft's value where it is not the default, else
the layered value. -/
def Layered {α : Type} (p : List String) (f : RgaConfig A → α) (dflt : α) (D R : RgaConfig A)
    (layers : List Value) : Prop :=
  (f D ≠ dflt → f R = f D) ∧ (f D = dflt → f R = layerValue deps p f dflt layers)

/-- The fields written under `skip_serializing_if`, those of `cache` one by one. -/
def LayeredFields (D R : RgaConfig A) (layers : List Value) : Prop :=
  Layered deps ["accurate"] (·.accurate) false D R layers ∧
  Layered deps ["adapters"] (·.adapters) [] D R layers ∧
  Layered deps ["cache", "disabled"] (·.cache.disabled) false D R layers ∧
  Layered deps ["cache", "max_blob_len"] (·.cache.maxBlobLen) .default D R layers ∧
  Layered deps ["cache", "compression_level"] (·.cache.compressionLevel) .default D R layers ∧
  Layered deps ["cache", "path"] (·.cache.path) (CachePath.default deps.cacheDir) D R layers ∧
  Layered deps ["max_archive_recursion"] (·.maxArchiveRecursion) .default D R layers ∧
  Layered deps ["no_prefix_filenames"] (·.noPrefixFilenames) false D R layers ∧
  Layered deps ["custom_adapters"] (·.customAdapters) none D R layers

/-- The `RGA_CONFIG` layer, present when the variable is set. -/
def envLayer (env : Option String) (E : Value) : List Value := if env.isSome then [E] else []

/-- Layered precedence of `parse_args` for the fields `fields` relates, over every run whose layers
have the shape `shape`: in full mode over `RGA_CONFIG` and the config file as read; in lightweight
mode, in every state a process reaches, over `RGA_CONFIG` alone. -/
def LayeredResolution (fields : RgaConfig A → RgaConfig A → List Value → Prop)
    (shape : Value → Prop) : Prop :=
  (∀ args s D n F E R s', deps.clap.parseFrom args = some D →
    (readConfigFile deps D.configFilePath s).1 = .ok (n, F) → readConfigEnv deps s.env = .ok E →
    EnvValid deps s.env → shape F → shape E → parseArgs deps args false s = some (.ok R, s') →
    fields D R (envLayer s.env E ++ [F])) ∧
  (∀ args s D E R s', Reachable deps s → deps.clap.parseFrom args = some D →
    readConfigEnv deps s.env = .ok E → EnvValid deps s.env → shape E →
    parseArgs deps args true s = some (.ok R, s') → fields D R (envLayer s.env E))

variable {deps} in
theorem LayeredResolution.and {P Q : RgaConfig A → RgaConfig A → List Value → Prop}
    {shape : Value → Prop} (hP : LayeredResolution deps P shape) (hQ : LayeredResolution deps Q shape) :
    LayeredResolution deps (fun D R ls => P D R ls ∧ Q D R ls) shape :=
  ⟨fun _ _ _ _ _ _ _ _ h₁ h₂ h₃ h₄ h₅ h₆ h₇ =>
    ⟨hP.1 _ _ _ _ _ _ _ _ h₁ h₂ h₃ h₄ h₅ h₆ h₇, hQ.1 _ _ _ _ _ _ _ _ h₁ h₂ h₃ h₄ h₅ h₆ h₇⟩,
   fun _ _ _ _ _ _ h₁ h₂ h₃ h₄ h₅ h₆ =>
    ⟨hP.2 _ _ _ _ _ _ h₁ h₂ h₃ h₄ h₅ h₆, hQ.2 _ _ _ _ _ _ h₁ h₂ h₃ h₄ h₅ h₆⟩⟩

/-! ## Where a field is read and written -/

/-- Field `f` of what a map-form document reads as is decoded by `de` from the document's value at
`p`, and is `dflt` where the document holds nothing there. -/
def ReadsAt {α : Type} (p : List String) (f : RgaConfig A → α) (dflt : α)
    (de : Json → Except DeError α) : Prop :=
  ∀ v c, MapForm v → RgaConfig.fromValue deps.cacheDir deps.adapter v = .ok c →
    (v.json.get p).elim (f c = dflt) fun w => de w = .ok (f c)

/-- A draft's document holds a value at `p` exactly where the draft's field `f` is not the
default, and that value decodes to the field. -/
def WritesAt {α : Type} (p : List String) (f : RgaConfig A → α) (dflt : α)
    (de : Json → Except DeError α) : Prop :=
  ∀ D : RgaConfig A, D.customAdapters = none →
    ((RgaConfig.toValue deps.cacheDir deps.adapter D).json.get p).elim (f D = dflt)
      fun w => de w = .ok (f D) ∧ f D ≠ dflt

theorem readsAt_top {α : Type} (k : String) {f : RgaConfig A → α} {dflt : α}
    {de : Json → Except DeError α}
    (h : ∀ m c, RgaConfig.deserialize deps.cacheDir deps.adapter (.object m) = .ok c →
      field m k de dflt = .ok (f c)) :
    ReadsAt deps [k] f dflt de := by
  rintro v c ⟨m, hm, -⟩ hc
  have hf := h m c (hm ▸ hc)
  unfold field at hf
  rw [hm, get_object_cons]
  cases hk : m.lookup k <;> rw [hk] at hf
  · exact (Except.ok.inj hf).symm
  · simpa using hf

theorem readsAt_cache {α : Type} (k : String) {g : CacheConfig → α} {dflt : α}
    {de : Json → Except DeError α}
    (h : ∀ m c, CacheConfig.deserialize deps.cacheDir (.object m) = .ok c → field m k de dflt = .ok (g c))
    (hd : g (CacheConfig.default deps.cacheDir) = dflt) :
    ReadsAt deps ["cache", k] (fun c => g c.cache) dflt de := by
  rintro v c ⟨m, hm, hcache⟩ hc
  unfold RgaConfig.fromValue at hc
  rw [hm] at hc
  obtain ⟨-, -, hf, -⟩ := (RgaConfig.deserialize_object deps.cacheDir deps.adapter).1 hc
  unfold field at hf
  rw [hm, get_object_cons]
  cases hk : m.lookup "cache" with
  | none =>
    rw [hk] at hf
    show g c.cache = dflt
    rw [← Except.ok.inj hf, hd]
  | some w =>
    rw [hk] at hf
    obtain ⟨mc, rfl⟩ := eq_object_of_isObject (hcache w hk)
    have hg := h mc _ hf
    unfold field at hg
    simp only [Option.some_bind, get_object_cons]
    cases hk' : mc.lookup k <;> rw [hk'] at hg
    · exact (Except.ok.inj hg).symm
    · simpa using hg

/-- A field written under `is_default`: its entry holds the value exactly where it is not the
default. -/
theorem get_objectOf_skipIf {α : Type} [DecidableEq α] {entries : List (String × Option Json)}
    (hs : (entries.map (·.1)).Pairwise fun a b => keyLt a b) {k : String} {dflt x : α}
    {ser : α → Json} (hk : (k, skipIf (isDefault dflt) ser x) ∈ entries)
    {de : Json → Except DeError α} (hser : de (ser x) = .ok x) :
    ((objectOf entries).get [k]).elim (x = dflt) (fun w => de w = .ok x ∧ x ≠ dflt) := by
  rw [objectOf, get_object_cons, lookup_objectOf hs hk]
  unfold skipIf isDefault
  by_cases hx : x = dflt <;> simp [hx, hser]

theorem writesAt_top {α : Type} [DecidableEq α] (k : String) {f : RgaConfig A → α} {dflt : α}
    {de : Json → Except DeError α} {ser : α → Json}
    (hk : ∀ D, (k, skipIf (isDefault dflt) ser (f D)) ∈ RgaConfig.entries deps.cacheDir deps.adapter D)
    (hser : ∀ x, de (ser x) = .ok x) : WritesAt deps [k] f dflt de :=
  fun D _ => get_objectOf_skipIf (RgaConfig.entries_sorted _ _ D) (hk D) (hser _)

theorem writesAt_cache {α : Type} [DecidableEq α] (k : String) {g : CacheConfig → α} {dflt : α}
    {de : Json → Except DeError α} {ser : α → Json}
    (hk : ∀ c, (k, skipIf (isDefault dflt) ser (g c)) ∈ CacheConfig.entries deps.cacheDir c)
    (hser : ∀ x, de (ser x) = .ok x) (hd : g (CacheConfig.default deps.cacheDir) = dflt) :
    WritesAt deps ["cache", k] (fun c => g c.cache) dflt de := by
  intro D _
  show ((objectOf _).get ("cache" :: [k])).elim _ _
  rw [objectOf, get_object_cons, lookup_objectOf (RgaConfig.entries_sorted _ _ D)
    (show ("cache", skipIf (isDefault (CacheConfig.default deps.cacheDir))
      (CacheConfig.serialize deps.cacheDir) D.cache) ∈ RgaConfig.entries _ _ D by simp [RgaConfig.entries])]
  unfold skipIf isDefault
  by_cases hc : D.cache = CacheConfig.default deps.cacheDir
  · simp [hc, hd]
  · simpa [hc] using get_objectOf_skipIf (CacheConfig.entries_sorted _ D.cache) (hk D.cache) (hser _)

theorem writesAt_customAdapters :
    WritesAt deps ["custom_adapters"] (·.customAdapters) none (deOption (deVec deps.adapter.deserialize)) := by
  intro D hD
  show ((objectOf _).get ["custom_adapters"]).elim _ _
  rw [objectOf, get_object_cons, lookup_objectOf (RgaConfig.entries_sorted _ _ D)
    (show ("custom_adapters", skipIf Option.isNone (serAdapters deps.adapter) D.customAdapters) ∈
      RgaConfig.entries _ _ D by simp [RgaConfig.entries])]
  simp [skipIf, hD]

theorem mapForm_toValue (D : RgaConfig A) : MapForm (RgaConfig.toValue deps.cacheDir deps.adapter D) := by
  refine ⟨_, rfl, fun c hc => ?_⟩
  rw [lookup_objectOf (RgaConfig.entries_sorted _ _ D)
    (show ("cache", skipIf (isDefault (CacheConfig.default deps.cacheDir))
      (CacheConfig.serialize deps.cacheDir) D.cache) ∈ RgaConfig.entries _ _ D by simp [RgaConfig.entries])]
    at hc
  unfold skipIf at hc
  split at hc
  · cases hc
  · cases hc; rfl

/-! ## One field -/

section Field

variable {α : Type} {p : List String} {f : RgaConfig A → α} {dflt : α} {de : Json → Except DeError α}

theorem ReadsAt.leaf (hde : RejectsObjects de) (hr : ReadsAt deps p f dflt de) {v : Value}
    {c : RgaConfig A} (hv : MapForm v) (hc : RgaConfig.fromValue deps.cacheDir deps.adapter v = .ok c) :
    ∀ w, v.json.get p = some w → w.isObject = false := by
  intro w hw
  have := hr v c hv hc
  rw [hw] at this
  exact isObject_of_accepts hde ⟨_, this⟩

/-- Two documents holding the same value at `p` read the same field. -/
theorem ReadsAt.congr (hr : ReadsAt deps p f dflt de) {v v' : Value} {c c' : RgaConfig A}
    (hv : MapForm v) (hc : RgaConfig.fromValue deps.cacheDir deps.adapter v = .ok c)
    (hv' : MapForm v') (hc' : RgaConfig.fromValue deps.cacheDir deps.adapter v' = .ok c')
    (h : v.json.get p = v'.json.get p) : f c = f c' := by
  have h₁ := hr v c hv hc
  have h₂ := hr v' c' hv' hc'
  rw [h] at h₁
  cases hp : v'.json.get p <;> simp only [hp, Option.elim] at h₁ h₂
  · exact h₁.trans h₂.symm
  · exact Except.ok.inj (h₁.symm.trans h₂)

/-- A document holding at `p` what the topmost layer holds there reads the field as the layers do. -/
theorem layerValue_eq (hr : ReadsAt deps p f dflt de) :
    ∀ ls : List Value, (∀ l ∈ ls, MapForm l ∧ ∃ c, RgaConfig.fromValue deps.cacheDir deps.adapter l = .ok c) →
      ∀ {X : Value} {c : RgaConfig A}, MapForm X → RgaConfig.fromValue deps.cacheDir deps.adapter X = .ok c →
      X.json.get p = firstGet p ls → f c = layerValue deps p f dflt ls
  | [], _, X, c, hX, hc, h => by
    have := hr X c hX hc
    rwa [h] at this
  | l :: ls, hls, X, c, hX, hc, h => by
    obtain ⟨hl, cl, hcl⟩ := hls l (List.mem_cons_self _ _)
    unfold layerValue
    cases hlp : l.json.get p with
    | some w =>
      simp only [Option.isSome_some, ↓reduceIte, hcl, Except.toOption, Option.map_some', Option.getD_some]
      exact hr.congr deps hX hc hl hcl (by rw [h, firstGet, hlp]; rfl)
    | none =>
      simp only [Option.isSome_none, Bool.false_eq_true, ↓reduceIte]
      exact layerValue_eq hr ls (fun l' h' => hls l' (List.mem_cons_of_mem _ h')) hX hc
        (by rw [h, firstGet, hlp]; rfl)

/-- The step every run ends with: the arguments' document of `D` merged over a base `X` that holds
at `p` what the topmost layer holds gives the field its layered value. -/
theorem layered_merge (hde : RejectsObjects de) (hr : ReadsAt deps p f dflt de)
    (hw : WritesAt deps p f dflt de) (hp : ∀ v, MapForm v → ObjectsAbove v.json p)
    (hf : ∀ c D : RgaConfig A, f { c with
      fzfPath := D.fzfPath, listAdapters := D.listAdapters, printConfigSchema := D.printConfigSchema,
      rgHelp := D.rgHelp, rgVersion := D.rgVersion } = f c)
    {D res : RgaConfig A} (hD : D.customAdapters = none) {ls : List Value}
    (hls : ∀ l ∈ ls, MapForm l ∧ ∃ c, RgaConfig.fromValue deps.cacheDir deps.adapter l = .ok c)
    {X : Value} (hX : MapForm X) (hXp : X.json.get p = firstGet p ls)
    (hres : RgaConfig.fromValue deps.cacheDir deps.adapter
      (jsonMerge X (RgaConfig.toValue deps.cacheDir deps.adapter D)) = .ok res) :
    Layered deps p f dflt D { res with
      fzfPath := D.fzfPath, listAdapters := D.listAdapters, printConfigSchema := D.printConfigSchema,
      rgHelp := D.rgHelp, rgVersion := D.rgVersion } ls := by
  have hA := mapForm_toValue deps D
  have hM := hX.jsonMerge hA
  have hget := get_jsonMerge (a := X) (hp _ hA) (hr.leaf deps hde hA (fromValue_toValue_draft deps hD))
  have hwD := hw D hD
  have hrM := hr _ _ hM hres
  rw [Layered, hf res D]
  constructor
  · intro hne
    cases hAp : (RgaConfig.toValue deps.cacheDir deps.adapter D).json.get p with
    | none => rw [hAp] at hwD; exact absurd hwD hne
    | some w =>
      rw [hAp] at hwD hget
      rw [hget] at hrM
      exact Except.ok.inj (hrM.symm.trans hwD.1)
  · intro heq
    cases hAp : (RgaConfig.toValue deps.cacheDir deps.adapter D).json.get p with
    | some w => rw [hAp] at hwD; exact absurd heq hwD.2
    | none =>
      rw [hAp, Option.none_or, hXp] at hget
      exact layerValue_eq deps hr ls hls hM hres hget

/-- The default configuration's document holds nothing at the path of a field written under
`is_default`. -/
theorem WritesAt.get_default (hw : WritesAt deps p f dflt de)
    (hdflt : f (RgaConfig.default deps.cacheDir) = dflt) :
    (RgaConfig.toValue deps.cacheDir deps.adapter (RgaConfig.default deps.cacheDir)).json.get p = none := by
  have := hw (RgaConfig.default deps.cacheDir) rfl
  cases h : (RgaConfig.toValue deps.cacheDir deps.adapter (RgaConfig.default deps.cacheDir)).json.get p
  · rfl
  · rw [h] at this; exact absurd hdflt this.2

/-- The `RGA_CONFIG` document as read: it reads as a configuration, and holds at `p` what its layer
holds, where the unset variable gives no layer. -/
theorem envLayer_spec (hw : WritesAt deps p f dflt de)
    (hdflt : f (RgaConfig.default deps.cacheDir) = dflt) {env : Option String} {E : Value}
    (hE : readConfigEnv deps env = .ok E) (hv : EnvValid deps env) (hm : MapForm E) :
    (∃ c, RgaConfig.fromValue deps.cacheDir deps.adapter E = .ok c) ∧
    (∀ l ∈ envLayer env E, MapForm l ∧ ∃ c, RgaConfig.fromValue deps.cacheDir deps.adapter l = .ok c) ∧
    E.json.get p = firstGet p (envLayer env E) := by
  have hacc := readConfigEnv_accepts deps hv hE
  cases env with
  | none => cases hE; exact ⟨hacc, nofun, hw.get_default deps hdflt⟩
  | some t =>
    refine ⟨hacc, fun l hl => ?_, (Option.or_none).symm⟩
    simp only [envLayer, Option.isSome_some, ↓reduceIte, List.mem_singleton] at hl
    exact hl ▸ ⟨hm, hacc⟩

/-- The layered law of one field, in both modes, from where it is read and written. -/
theorem layeredResolution_of (hde : RejectsObjects de) (hr : ReadsAt deps p f dflt de)
    (hw : WritesAt deps p f dflt de) (hp : ∀ v, MapForm v → ObjectsAbove v.json p)
    (hf : ∀ c D : RgaConfig A, f { c with
      fzfPath := D.fzfPath, listAdapters := D.listAdapters, printConfigSchema := D.printConfigSchema,
      rgHelp := D.rgHelp, rgVersion := D.rgVersion } = f c)
    (hdflt : f (RgaConfig.default deps.cacheDir) = dflt) :
    LayeredResolution deps (Layered deps p f dflt) MapForm := by
  constructor
  · intro args s D n F E R s' hD hF hE hv hmF hmE h
    obtain ⟨M, res, hM, hres, rfl⟩ := parseArgs_eq_ok deps hD h
    obtain ⟨n', F', E', hF', hE', rfl⟩ := (mergedConfig_full deps D s).2.2 M hM
    rw [hF] at hF'
    rw [hE] at hE'
    cases hF'
    cases hE'
    obtain ⟨⟨cE, hcE⟩, hls, hfirst⟩ := envLayer_spec deps hw hdflt hE hv hmE
    have hFacc := (readConfigFile_spec deps _ s).2.2 n F hF
    refine layered_merge deps hde hr hw hp hf (deps.clap.customAdapters_eq_none _ _ hD) ?_
      (hmF.jsonMerge hmE) ?_ hres
    · intro l hl
      rcases List.mem_append.1 hl with hl | hl
      · exact hls l hl
      · rw [List.mem_singleton.1 hl]; exact ⟨hmF, hFacc⟩
    · rw [get_jsonMerge (hp E hmE) (hr.leaf deps hde hmE hcE), firstGet_append, ← hfirst, firstGet,
        firstGet, Option.or_none]
  · intro args s D E R s' hs hD hE hv hmE h
    obtain ⟨M, res, hM, hres, rfl⟩ := parseArgs_eq_ok deps hD h
    obtain ⟨E', hE', rfl⟩ := (mergedConfig_preproc deps D s).2 M hM
    rw [hs.readConfigEnvCached, hE] at hE'
    cases hE'
    obtain ⟨-, hls, hfirst⟩ := envLayer_spec deps hw hdflt hE hv hmE
    exact layered_merge deps hde hr hw hp hf (deps.clap.customAdapters_eq_none _ _ hD) hls hmE hfirst hres

end Field

/-! ## Every field -/

/-- Layered precedence of `parse_args` in both modes, for layers in map form: each field written
under `skip_serializing_if`, and each field of `cache`, is the draft's value where that is not the
default, else the value of the topmost layer holding it, else the default. -/
theorem parseArgs_layered : LayeredResolution deps (LayeredFields deps) MapForm := by
  have hv : ∀ xs, deVec deString (serVec serString xs) = .ok xs :=
    fun _ => deVec_serVec fun x _ => deString_serString x
  have h₁ := layeredResolution_of deps deBool_rejectsObjects
    (readsAt_top deps "accurate" fun _ _ h => ((RgaConfig.deserialize_object _ _).1 h).1)
    (writesAt_top deps "accurate" (fun _ => by simp [RgaConfig.entries]) deBool_serBool)
    (fun v hv => hv.objectsAbove_top _) (fun _ _ => rfl) rfl
  have h₂ := layeredResolution_of deps (deVec_rejectsObjects _)
    (readsAt_top deps "adapters" fun _ _ h => ((RgaConfig.deserialize_object _ _).1 h).2.1)
    (writesAt_top deps "adapters" (fun _ => by simp [RgaConfig.entries]) hv)
    (fun v hv => hv.objectsAbove_top _) (fun _ _ => rfl) rfl
  have h₃ := layeredResolution_of deps deBool_rejectsObjects
    (readsAt_cache deps "disabled" (fun _ _ h => ((CacheConfig.deserialize_object _).1 h).1) rfl)
    (writesAt_cache deps "disabled" (fun _ => by simp [CacheConfig.entries]) deBool_serBool rfl)
    (fun v hv => hv.objectsAbove_cache _) (fun _ _ => rfl) rfl
  have h₄ := layeredResolution_of deps CacheMaxBlobLen.deserialize_rejectsObjects
    (readsAt_cache deps "max_blob_len" (fun _ _ h => ((CacheConfig.deserialize_object _).1 h).2.1) rfl)
    (writesAt_cache deps "max_blob_len" (fun _ => by simp [CacheConfig.entries])
      CacheMaxBlobLen.deserialize_serialize rfl)
    (fun v hv => hv.objectsAbove_cache _) (fun _ _ => rfl) rfl
  have h₅ := layeredResolution_of deps CacheCompressionLevel.deserialize_rejectsObjects
    (readsAt_cache deps "compression_level" (fun _ _ h => ((CacheConfig.deserialize_object _).1 h).2.2.1)
      rfl)
    (writesAt_cache deps "compression_level" (fun _ => by simp [CacheConfig.entries])
      CacheCompressionLevel.deserialize_serialize rfl)
    (fun v hv => hv.objectsAbove_cache _) (fun _ _ => rfl) rfl
  have h₆ := layeredResolution_of deps CachePath.deserialize_rejectsObjects
    (readsAt_cache deps "path" (fun _ _ h => ((CacheConfig.deserialize_object _).1 h).2.2.2) rfl)
    (writesAt_cache deps "path" (fun _ => by simp [CacheConfig.entries])
      CachePath.deserialize_serialize rfl)
    (fun v hv => hv.objectsAbove_cache _) (fun _ _ => rfl) rfl
  have h₇ := layeredResolution_of deps MaxArchiveRecursion.deserialize_rejectsObjects
    (readsAt_top deps "max_archive_recursion" fun _ _ h =>
      ((RgaConfig.deserialize_object _ _).1 h).2.2.2.1)
    (writesAt_top deps "max_archive_recursion" (fun _ => by simp [RgaConfig.entries])
      MaxArchiveRecursion.deserialize_serialize)
    (fun v hv => hv.objectsAbove_top _) (fun _ _ => rfl) rfl
  have h₈ := layeredResolution_of deps deBool_rejectsObjects
    (readsAt_top deps "no_prefix_filenames" fun _ _ h =>
      ((RgaConfig.deserialize_object _ _).1 h).2.2.2.2.1)
    (writesAt_top deps "no_prefix_filenames" (fun _ => by simp [RgaConfig.entries]) deBool_serBool)
    (fun v hv => hv.objectsAbove_top _) (fun _ _ => rfl) rfl
  have h₉ := layeredResolution_of deps (deOption_rejectsObjects (deVec_rejectsObjects _))
    (readsAt_top deps "custom_adapters" fun _ _ h =>
      ((RgaConfig.deserialize_object _ _).1 h).2.2.2.2.2.1)
    (writesAt_customAdapters deps) (fun v hv => hv.objectsAbove_top _) (fun _ _ => rfl) rfl
  exact h₁.and (h₂.and (h₃.and (h₄.and (h₅.and (h₆.and (h₇.and (h₈.and h₉)))))))

/-! ## The five `Option` fields -/

/-- The merged document is a map that holds, under each key the arguments' document writes with a
value that is not an object, that value. -/
theorem jsonMerge_toValue_object (X : Value) (D : RgaConfig A) :
    ∃ m, (jsonMerge X (RgaConfig.toValue deps.cacheDir deps.adapter D)).json = .object m ∧
      ∀ k v, (k, some v) ∈ RgaConfig.entries deps.cacheDir deps.adapter D → v.isObject = false →
        m.lookup k = some v := by
  have hs := RgaConfig.entries_sorted deps.cacheDir deps.adapter D
  cases hX : X.json.isObject with
  | false =>
    exact ⟨_, by rw [jsonMerge_json, merge_of_isObject_left _ hX]; rfl,
      fun k v hk _ => lookup_objectOf hs hk⟩
  | true =>
    obtain ⟨mX, hmX⟩ := eq_object_of_isObject hX
    refine ⟨mergeEntries mX _, by rw [jsonMerge_json, hmX]; rfl, fun k v hk hv => ?_⟩
    rw [lookup_mergeEntries k (canonical_object_sorted (hmX ▸ X.canonical)) (keysSorted_objectOf hs),
      lookup_objectOf hs hk, mergeOpt_some, merge_of_isObject_right hv]

/-- The five `Option` fields written without `skip_serializing_if` come from the arguments alone: in
both modes and from every state, `parse_args` returns the draft's value in them, whatever the config
file and `RGA_CONFIG` hold. -/
theorem parseArgs_optionFields {args : List OsString} {mode : Bool} {s s' : Process}
    {D R : RgaConfig A} (hD : deps.clap.parseFrom args = some D)
    (h : parseArgs deps args mode s = some (.ok R, s')) :
    R.zipExtensions = D.zipExtensions ∧ R.ffmpegExtensions = D.ffmpegExtensions ∧
      R.postprocBinaryMarker = D.postprocBinaryMarker ∧
      R.postprocPagePrefix = D.postprocPagePrefix ∧
      R.postprocPageIncludeEmpty = D.postprocPageIncludeEmpty := by
  obtain ⟨M, res, hM, hres, rfl⟩ := parseArgs_eq_ok deps hD h
  obtain ⟨X, rfl⟩ := mergedConfig_eq_jsonMerge deps hM
  obtain ⟨m, hm, hl⟩ := jsonMerge_toValue_object deps X D
  unfold RgaConfig.fromValue at hres
  rw [hm] at hres
  obtain ⟨-, -, -, -, -, -, h₁, h₂, h₃, h₄, h₅, -⟩ := (RgaConfig.deserialize_object _ _).1 hres
  have key : ∀ {α : Type} (ser : α → Json) (x : Option α) {k : String}
      {de : Json → Except DeError α} {y : Option α},
      (k, some (serOption ser x)) ∈ RgaConfig.entries deps.cacheDir deps.adapter D →
      (serOption ser x).isObject = false → deOption de (serOption ser x) = .ok x →
      field m k (deOption de) none = .ok y → y = x := by
    intro _ _ _ _ _ _ hk ho hd hf
    unfold field at hf
    rw [hl _ _ hk ho] at hf
    exact (Except.ok.inj (hd.symm.trans hf)).symm
  have hv : ∀ xs, deVec deString (serVec serString xs) = .ok xs :=
    fun _ => deVec_serVec fun x _ => deString_serString x
  exact ⟨key _ D.zipExtensions (by simp [RgaConfig.entries]) (by cases D.zipExtensions <;> rfl)
      (deOption_serOption hv (serVec_ne_null _) _) h₁,
    key _ D.ffmpegExtensions (by simp [RgaConfig.entries]) (by cases D.ffmpegExtensions <;> rfl)
      (deOption_serOption hv (serVec_ne_null _) _) h₂,
    key _ D.postprocBinaryMarker (by simp [RgaConfig.entries])
      (by cases D.postprocBinaryMarker <;> rfl) (deOption_serOption deString_serString nofun _) h₃,
    key _ D.postprocPagePrefix (by simp [RgaConfig.entries])
      (by cases D.postprocPagePrefix <;> rfl) (deOption_serOption deString_serString nofun _) h₄,
    key _ D.postprocPageIncludeEmpty (by simp [RgaConfig.entries])
      (by cases D.postprocPageIncludeEmpty <;> rfl) (deOption_serOption deBool_serBool nofun _) h₅⟩

end Layers

/-! ## The config file's `Option` fields are lost -/

/-- The text `{"zip_extensions": ["zip"]}`. -/
def zipFileText : String := "\x7b\"zip_extensions\":[\"zip\"]\x7d"

/-- A run whose config file holds `zipFileText`, with a draft that sets nothing. -/
def zipFileDeps : Deps Unit :=
  sampleDeps (RgaConfig.default "/cache")
    [(zipFileText, ⟨.object [("zip_extensions", .array [.string "zip"])], rfl⟩)]

/-- `rga` with no `--rga-` argument, `RGA_CONFIG` unset, and the config file setting
`zip_extensions`: the file reads as the list `["zip"]`, and `parse_args` returns `None`, since the
arguments' document holds `"zip_extensions": null` and is merged last. -/
theorem parseArgs_drops_fileZipExtensions :
    (fromStrConfig zipFileDeps zipFileText).map (·.zipExtensions) = some (some ["zip"]) ∧
      (parseArgs zipFileDeps [.ofString "rga"] false
        ⟨none, fun p => if p = "/config/config.jsonc" then some (some zipFileText) else none, none⟩).map
        (fun r => r.1.toOption.map (·.zipExtensions)) = some (some none) :=
  ⟨rfl, rfl⟩

/-- A run with `RGA_CONFIG=[]` over a config file holding `{"accurate": true}`. -/
def seqEnvDeps : Deps Unit :=
  sampleDeps (RgaConfig.default "/cache")
    [("\x7b\"accurate\":true\x7d", ⟨.object [("accurate", .bool true)], rfl⟩), ("[]", ⟨.array [], rfl⟩)]

/- A layer outside map form: serde reads `[]` as an `RgaConfig` in sequence form, the array replaces
the file's document and the arguments' document replaces the array, so `accurate` is `false`. -/
example :
    (parseArgs seqEnvDeps [] false ⟨some "[]", fun p => if p = "/config/config.jsonc" then
        some (some "\x7b\"accurate\":true\x7d") else none, none⟩).map
      (fun r => r.1.toOption.map (·.accurate)) = some (some false) :=
  rfl

/-- A preprocessor started with `RGA_CONFIG={"zip_extensions":["zip"]}` and no `--rga-` argument. -/
def zipEnvDeps : Deps Unit :=
  sampleDeps (RgaConfig.default "/cache")
    [("z", ⟨.object [("zip_extensions", .array [.string "zip"])], rfl⟩)]

/-- The preprocessor reads `None` in `zip_extensions`, not the list `RGA_CONFIG` holds. -/
theorem parseArgs_optionFields_preproc :
    parseArgs zipEnvDeps [] true ⟨some "z", fun _ => none, none⟩ =
      some (.ok (RgaConfig.default "/cache"), ⟨some "z", fun _ => none,
        some ⟨.object [("zip_extensions", .array [.string "zip"])], rfl⟩⟩) ∧
    ((RgaConfig.default "/cache" : RgaConfig Unit).zipExtensions = none ∧
      (RgaConfig.default "/cache" : RgaConfig Unit).ffmpegExtensions = none ∧
      (RgaConfig.default "/cache" : RgaConfig Unit).postprocBinaryMarker = none ∧
      (RgaConfig.default "/cache" : RgaConfig Unit).postprocPagePrefix = none ∧
      (RgaConfig.default "/cache" : RgaConfig Unit).postprocPageIncludeEmpty = none) :=
  have h : parseArgs zipEnvDeps [] true ⟨some "z", fun _ => none, none⟩ =
      some (.ok (RgaConfig.default "/cache"), ⟨some "z", fun _ => none,
        some ⟨.object [("zip_extensions", .array [.string "zip"])], rfl⟩⟩) := rfl
  ⟨h, parseArgs_optionFields _ rfl h⟩

end RipgrepAll
