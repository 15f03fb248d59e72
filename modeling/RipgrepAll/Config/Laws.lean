/-
The two laws of the schema that resolution rests on. `serde_json::to_value` of a configuration is a
canonical document that `from_value` reads back to the configuration, its `#[serde(skip)]` fields
reset; and the documents `from_value` accepts as an `RgaConfig` (or a `CacheConfig`) are closed under
`json_merge`, since the only field that accepts an object is `cache`, whose own fields accept none.
-/
import RipgrepAll.Config.Schema

namespace RipgrepAll

open Json

/-! ## Canonical output -/

theorem canonical_skipIf {α : Type} {skip : α → Bool} {ser : α → Json} (h : ∀ x, (ser x).canonical)
    (x : α) : ∀ v ∈ skipIf skip ser x, v.canonical := by
  unfold skipIf
  split_ifs
  · nofun
  · rintro v ⟨⟩; exact h x

theorem canonical_serVec {α : Type} {ser : α → Json} (h : ∀ x, (ser x).canonical) (xs : List α) :
    (serVec ser xs).canonical := by
  simp [serVec, h]

theorem canonical_serOption {α : Type} {ser : α → Json} (h : ∀ x, (ser x).canonical) :
    ∀ o : Option α, (serOption ser o).canonical
  | none => rfl
  | some x => h x

theorem serVec_ne_null {α : Type} (ser : α → Json) (xs : List α) : serVec ser xs ≠ .null := nofun

/-- A field written unconditionally reads back what was written. -/
theorem field_some {α : Type} {entries : List (String × Option Json)}
    (hs : (entries.map (·.1)).Pairwise fun a b => keyLt a b) {key : String} {v : Json}
    (hk : (key, some v) ∈ entries) {de : Json → Except DeError α} {dflt x : α} (h : de v = .ok x) :
    field (entries.filterMap fun e => e.2.map (e.1, ·)) key de dflt = .ok x := by
  rw [field_objectOf hs hk]
  exact h

theorem eq_of_isDefault {α : Type} [DecidableEq α] {dflt x : α} (h : isDefault dflt x) : x = dflt := by
  simpa [isDefault] using h

section Laws

variable (cacheDir : String) {A : Type} (adapter : Codec A)

@[simp] theorem CacheMaxBlobLen.deserialize_serialize (x : CacheMaxBlobLen) :
    CacheMaxBlobLen.deserialize x.serialize = .ok x := by
  simp [CacheMaxBlobLen.deserialize, CacheMaxBlobLen.serialize, Except.map]

@[simp] theorem CacheCompressionLevel.deserialize_serialize (x : CacheCompressionLevel) :
    CacheCompressionLevel.deserialize x.serialize = .ok x := by
  simp [CacheCompressionLevel.deserialize, CacheCompressionLevel.serialize, Except.map]

@[simp] theorem MaxArchiveRecursion.deserialize_serialize (x : MaxArchiveRecursion) :
    MaxArchiveRecursion.deserialize x.serialize = .ok x := by
  simp [MaxArchiveRecursion.deserialize, MaxArchiveRecursion.serialize, Except.map]

@[simp] theorem CachePath.deserialize_serialize (x : CachePath) :
    CachePath.deserialize x.serialize = .ok x := by
  simp [CachePath.deserialize, CachePath.serialize, Except.map]

theorem CacheConfig.entries_sorted (c : CacheConfig) :
    ((CacheConfig.entries cacheDir c).map (·.1)).Pairwise fun a b => keyLt a b := by
  show (["compression_level", "disabled", "max_blob_len", "path"]).Pairwise _
  decide

theorem RgaConfig.entries_sorted (c : RgaConfig A) :
    ((RgaConfig.entries cacheDir adapter c).map (·.1)).Pairwise fun a b => keyLt a b := by
  show (["accurate", "adapters", "cache", "custom_adapters", "ffmpeg_extensions",
    "max_archive_recursion", "no_prefix_filenames", "postproc_binary_marker",
    "postproc_page_include_empty", "postproc_page_prefix", "zip_extensions"]).Pairwise _
  decide

theorem CacheConfig.canonical_serialize (c : CacheConfig) : (c.serialize cacheDir).canonical := by
  refine canonical_objectOf (CacheConfig.entries_sorted cacheDir c) fun e he => ?_
  simp only [CacheConfig.entries, List.mem_cons, List.mem_nil_iff, or_false] at he
  rcases he with rfl | rfl | rfl | rfl <;> exact canonical_skipIf (fun _ => by rfl) _

theorem RgaConfig.canonical_serialize (c : RgaConfig A) : (c.serialize cacheDir adapter).canonical := by
  have hs : ∀ s, (serString s).canonical := fun _ => rfl
  have hb : ∀ b, (serBool b).canonical := fun _ => rfl
  refine canonical_objectOf (RgaConfig.entries_sorted cacheDir adapter c) fun e he => ?_
  simp only [RgaConfig.entries, List.mem_cons, List.mem_nil_iff, or_false] at he
  rcases he with rfl | rfl | rfl | rfl | rfl | rfl | rfl | rfl | rfl | rfl | rfl
  · exact canonical_skipIf hb _
  · exact canonical_skipIf (canonical_serVec hs) _
  · exact canonical_skipIf (CacheConfig.canonical_serialize cacheDir) _
  · exact canonical_skipIf (canonical_serOption (canonical_serVec fun a => (adapter.serialize a).canonical)) _
  · rintro v ⟨⟩; exact canonical_serOption (canonical_serVec hs) _
  · exact canonical_skipIf (fun _ => by rfl) _
  · exact canonical_skipIf hb _
  · rintro v ⟨⟩; exact canonical_serOption hs _
  · rintro v ⟨⟩; exact canonical_serOption hb _
  · rintro v ⟨⟩; exact canonical_serOption hs _
  · rintro v ⟨⟩; exact canonical_serOption (canonical_serVec hs) _

/-- `serde_json::to_value(&c)` for an `RgaConfig`: a `Value`, its keys sorted. -/
def RgaConfig.toValue (c : RgaConfig A) : Value :=
  ⟨c.serialize cacheDir adapter, RgaConfig.canonical_serialize cacheDir adapter c⟩

/-- `serde_json::from_value::<RgaConfig>(v)`. -/
def RgaConfig.fromValue (v : Value) : Except DeError (RgaConfig A) :=
  RgaConfig.deserialize cacheDir adapter v.json

/-- `c` with its `#[serde(skip)]` fields at their defaults. -/
def RgaConfig.withSkippedDefault (c : RgaConfig A) : RgaConfig A :=
  { c with
    configFilePath := none, fzfPath := none, listAdapters := false, printConfigSchema := false,
    rgHelp := false, rgVersion := false }

theorem RgaConfig.withSkippedDefault_eq {c : RgaConfig A} (h : c.SkipAtDefault) :
    c.withSkippedDefault = c := by
  cases c
  obtain ⟨rfl, rfl, rfl, rfl, rfl, rfl⟩ := h
  rfl

/-! ## Round trips -/

theorem CacheConfig.deserialize_serialize (c : CacheConfig) :
    CacheConfig.deserialize cacheDir (c.serialize cacheDir) = .ok c := by
  have hs := CacheConfig.entries_sorted cacheDir c
  refine (CacheConfig.deserialize_object cacheDir).2
    ⟨field_skipIf hs (by simp [CacheConfig.entries]) (deBool_serBool _) eq_of_isDefault,
      field_skipIf hs (by simp [CacheConfig.entries]) (CacheMaxBlobLen.deserialize_serialize _)
        eq_of_isDefault,
      field_skipIf hs (by simp [CacheConfig.entries]) (CacheCompressionLevel.deserialize_serialize _)
        eq_of_isDefault,
      field_skipIf hs (by simp [CacheConfig.entries]) (CachePath.deserialize_serialize _)
        eq_of_isDefault⟩

theorem deOption_serAdapters {o : Option (List A)}
    (hA : ∀ xs ∈ o, ∀ a ∈ xs, adapter.deserialize (adapter.serialize a).json = .ok a) :
    deOption (deVec adapter.deserialize) (serAdapters adapter o) = .ok o := by
  cases o with
  | none => rfl
  | some xs =>
    show some <$> deVec adapter.deserialize (serVec _ xs) = _
    rw [deVec_serVec (hA xs rfl)]
    rfl

/-- What `from_value` reads back from `to_value`: the configuration with its `#[serde(skip)]` fields
at their defaults, once its custom adapters round-trip. -/
theorem RgaConfig.deserialize_serialize (c : RgaConfig A)
    (hA : ∀ xs ∈ c.customAdapters, ∀ a ∈ xs, adapter.deserialize (adapter.serialize a).json = .ok a) :
    RgaConfig.deserialize cacheDir adapter (c.serialize cacheDir adapter) = .ok c.withSkippedDefault := by
  have hs := RgaConfig.entries_sorted cacheDir adapter c
  have hv : ∀ xs, deVec deString (serVec serString xs) = .ok xs :=
    fun _ => deVec_serVec fun x _ => deString_serString x
  have ho := deOption_serOption hv (serVec_ne_null _)
  refine (RgaConfig.deserialize_object cacheDir adapter).2
    ⟨field_skipIf hs (by simp [RgaConfig.entries, RgaConfig.withSkippedDefault]) (deBool_serBool _)
        eq_of_isDefault,
      field_skipIf hs (by simp [RgaConfig.entries, RgaConfig.withSkippedDefault]) (hv _) eq_of_isDefault,
      field_skipIf hs (by simp [RgaConfig.entries, RgaConfig.withSkippedDefault])
        (CacheConfig.deserialize_serialize cacheDir _) eq_of_isDefault,
      field_skipIf hs (by simp [RgaConfig.entries, RgaConfig.withSkippedDefault])
        (MaxArchiveRecursion.deserialize_serialize _) eq_of_isDefault,
      field_skipIf hs (by simp [RgaConfig.entries, RgaConfig.withSkippedDefault]) (deBool_serBool _)
        eq_of_isDefault,
      field_skipIf hs (by simp [RgaConfig.entries, RgaConfig.withSkippedDefault])
        (deOption_serAdapters adapter hA) Option.isNone_iff_eq_none.1,
      field_some hs (by simp [RgaConfig.entries, RgaConfig.withSkippedDefault]) (ho _),
      field_some hs (by simp [RgaConfig.entries, RgaConfig.withSkippedDefault]) (ho _),
      field_some hs (by simp [RgaConfig.entries, RgaConfig.withSkippedDefault])
        (deOption_serOption deString_serString nofun _),
      field_some hs (by simp [RgaConfig.entries, RgaConfig.withSkippedDefault])
        (deOption_serOption deString_serString nofun _),
      field_some hs (by simp [RgaConfig.entries, RgaConfig.withSkippedDefault])
        (deOption_serOption deBool_serBool nofun _),
      rfl, rfl, rfl, rfl, rfl, rfl⟩

/-- `from_value(to_value(c)) = Ok(c)` for every configuration whose `#[serde(skip)]` fields are at
their defaults, once `CustomAdapterConfig` round-trips: a field `is_default` skips comes back as the
`#[serde(default)]` value, and an `Option` written as `null` as `None`. -/
theorem RgaConfig.fromValue_toValue (hA : ∀ a, adapter.deserialize (adapter.serialize a).json = .ok a)
    (c : RgaConfig A) (hc : c.SkipAtDefault) :
    RgaConfig.fromValue cacheDir adapter (RgaConfig.toValue cacheDir adapter c) = .ok c :=
  (RgaConfig.deserialize_serialize cacheDir adapter c fun _ _ a _ => hA a).trans
    (congrArg _ (RgaConfig.withSkippedDefault_eq hc))

/-- A stand-in for `CustomAdapterConfig` with one value, written as `null`. -/
def unitCodec : Codec Unit := ⟨fun _ => ⟨.null, rfl⟩, fun _ => .ok ()⟩

theorem fromValue_toValue_sample :
    (∀ a, unitCodec.deserialize (unitCodec.serialize a).json = .ok a) ∧
      RgaConfig.SkipAtDefault { (RgaConfig.default "/cache" : RgaConfig Unit) with
        accurate := true, customAdapters := some [()], zipExtensions := some ["zip"] } ∧
      RgaConfig.fromValue "/cache" unitCodec (RgaConfig.toValue "/cache" unitCodec
        { (RgaConfig.default "/cache" : RgaConfig Unit) with
          accurate := true, customAdapters := some [()], zipExtensions := some ["zip"] }) =
        .ok { (RgaConfig.default "/cache" : RgaConfig Unit) with
          accurate := true, customAdapters := some [()], zipExtensions := some ["zip"] } :=
  ⟨fun _ => rfl, ⟨rfl, rfl, rfl, rfl, rfl, rfl⟩,
    RgaConfig.fromValue_toValue _ _ (fun _ => rfl) _ ⟨rfl, rfl, rfl, rfl, rfl, rfl⟩⟩

/-! ## Merging accepted documents -/

/-- A decoder is merge-closed once it is for two maps: a merge with a non-object on either side is
the right side. -/
theorem mergeClosed_of_objects {α : Type} {de : Json → Except DeError α}
    (h : ∀ ma mb, (object ma).canonical → (object mb).canonical → Accepts de (object ma) →
      Accepts de (object mb) → Accepts de (object (mergeEntries ma mb))) : MergeClosed de := by
  intro a b ha hb hxa hxb
  cases hbo : b.isObject
  · rwa [merge_of_isObject_right hbo]
  obtain ⟨mb, rfl⟩ := eq_object_of_isObject hbo
  cases hao : a.isObject
  · rwa [merge_of_isObject_left _ hao]
  obtain ⟨ma, rfl⟩ := eq_object_of_isObject hao
  exact h ma mb ha hb hxa hxb

theorem CacheMaxBlobLen.deserialize_rejectsObjects : RejectsObjects CacheMaxBlobLen.deserialize :=
  deUsize_rejectsObjects.map _

theorem CacheCompressionLevel.deserialize_rejectsObjects :
    RejectsObjects CacheCompressionLevel.deserialize :=
  deI32_rejectsObjects.map _

theorem MaxArchiveRecursion.deserialize_rejectsObjects : RejectsObjects MaxArchiveRecursion.deserialize :=
  deI32_rejectsObjects.map _

theorem CachePath.deserialize_rejectsObjects : RejectsObjects CachePath.deserialize :=
  deString_rejectsObjects.map _

theorem CacheConfig.deserialize_mergeClosed : MergeClosed (CacheConfig.deserialize cacheDir) :=
  mergeClosed_of_objects fun ma mb ha hb ⟨_, hx⟩ ⟨_, hy⟩ => by
    rw [CacheConfig.deserialize_object] at hx hy
    obtain ⟨a₁, a₂, a₃, a₄⟩ := hx
    obtain ⟨b₁, b₂, b₃, b₄⟩ := hy
    obtain ⟨x₁, h₁⟩ := field_accepts_mergeEntries ha hb _ deBool_rejectsObjects.mergeClosed _ ⟨_, a₁⟩ ⟨_, b₁⟩
    obtain ⟨x₂, h₂⟩ := field_accepts_mergeEntries ha hb _
      CacheMaxBlobLen.deserialize_rejectsObjects.mergeClosed _ ⟨_, a₂⟩ ⟨_, b₂⟩
    obtain ⟨x₃, h₃⟩ := field_accepts_mergeEntries ha hb _
      CacheCompressionLevel.deserialize_rejectsObjects.mergeClosed _ ⟨_, a₃⟩ ⟨_, b₃⟩
    obtain ⟨x₄, h₄⟩ := field_accepts_mergeEntries ha hb _
      CachePath.deserialize_rejectsObjects.mergeClosed _ ⟨_, a₄⟩ ⟨_, b₄⟩
    exact ⟨⟨x₁, x₂, x₃, x₄⟩, (CacheConfig.deserialize_object cacheDir).2 ⟨h₁, h₂, h₃, h₄⟩⟩

/-- The documents `from_value` accepts as an `RgaConfig` are closed under `json_merge`. -/
theorem RgaConfig.deserialize_mergeClosed : MergeClosed (RgaConfig.deserialize cacheDir adapter) :=
  mergeClosed_of_objects fun ma mb ha hb ⟨_, hx⟩ ⟨_, hy⟩ => by
    rw [RgaConfig.deserialize_object] at hx hy
    obtain ⟨a₁, a₂, a₃, a₄, a₅, a₆, a₇, a₈, a₉, a₁₀, a₁₁, -⟩ := hx
    obtain ⟨b₁, b₂, b₃, b₄, b₅, b₆, b₇, b₈, b₉, b₁₀, b₁₁, -⟩ := hy
    have hv := deVec_rejectsObjects deString
    obtain ⟨x₁, h₁⟩ := field_accepts_mergeEntries ha hb _ deBool_rejectsObjects.mergeClosed _ ⟨_, a₁⟩ ⟨_, b₁⟩
    obtain ⟨x₂, h₂⟩ := field_accepts_mergeEntries ha hb _ hv.mergeClosed _ ⟨_, a₂⟩ ⟨_, b₂⟩
    obtain ⟨x₃, h₃⟩ := field_accepts_mergeEntries ha hb _ (CacheConfig.deserialize_mergeClosed cacheDir)
      _ ⟨_, a₃⟩ ⟨_, b₃⟩
    obtain ⟨x₄, h₄⟩ := field_accepts_mergeEntries ha hb _
      MaxArchiveRecursion.deserialize_rejectsObjects.mergeClosed _ ⟨_, a₄⟩ ⟨_, b₄⟩
    obtain ⟨x₅, h₅⟩ := field_accepts_mergeEntries ha hb _ deBool_rejectsObjects.mergeClosed _ ⟨_, a₅⟩ ⟨_, b₅⟩
    obtain ⟨x₆, h₆⟩ := field_accepts_mergeEntries ha hb _
      (deOption_rejectsObjects (deVec_rejectsObjects _)).mergeClosed _ ⟨_, a₆⟩ ⟨_, b₆⟩
    obtain ⟨x₇, h₇⟩ := field_accepts_mergeEntries ha hb _ (deOption_rejectsObjects hv).mergeClosed _
      ⟨_, a₇⟩ ⟨_, b₇⟩
    obtain ⟨x₈, h₈⟩ := field_accepts_mergeEntries ha hb _ (deOption_rejectsObjects hv).mergeClosed _
      ⟨_, a₈⟩ ⟨_, b₈⟩
    obtain ⟨x₉, h₉⟩ := field_accepts_mergeEntries ha hb _
      (deOption_rejectsObjects deString_rejectsObjects).mergeClosed _ ⟨_, a₉⟩ ⟨_, b₉⟩
    obtain ⟨x₁₀, h₁₀⟩ := field_accepts_mergeEntries ha hb _
      (deOption_rejectsObjects deString_rejectsObjects).mergeClosed _ ⟨_, a₁₀⟩ ⟨_, b₁₀⟩
    obtain ⟨x₁₁, h₁₁⟩ := field_accepts_mergeEntries ha hb _
      (deOption_rejectsObjects deBool_rejectsObjects).mergeClosed _ ⟨_, a₁₁⟩ ⟨_, b₁₁⟩
    exact ⟨⟨x₁, x₂, x₃, x₄, x₅, x₆, none, none, false, false, false, false, x₇, x₈, x₉, x₁₀, x₁₁⟩,
      (RgaConfig.deserialize_object cacheDir adapter).2
        ⟨h₁, h₂, h₃, h₄, h₅, h₆, h₇, h₈, h₉, h₁₀, h₁₁, rfl, rfl, rfl, rfl, rfl, rfl⟩⟩

theorem RgaConfig.skipAtDefault_of_object {m : List (String × Json)} {R : RgaConfig A}
    (h : RgaConfig.deserialize cacheDir adapter (.object m) = .ok R) : R.SkipAtDefault := by
  obtain ⟨-, -, -, -, -, -, -, -, -, -, -, hs⟩ := (RgaConfig.deserialize_object cacheDir adapter).1 h
  exact hs

/-- `from_value` accepts the merge of two documents it accepts. -/
theorem RgaConfig.fromValue_jsonMerge {a b : Value}
    (ha : ∃ x, RgaConfig.fromValue cacheDir adapter a = .ok x)
    (hb : ∃ y, RgaConfig.fromValue cacheDir adapter b = .ok y) :
    ∃ z, RgaConfig.fromValue cacheDir adapter (jsonMerge a b) = .ok z :=
  RgaConfig.deserialize_mergeClosed cacheDir adapter _ _ a.canonical b.canonical ha hb

end Laws

end RipgrepAll
