/-
The configuration schema: `CacheConfig` and `RgaConfig` with their derived `Default`, `Serialize`
and `Deserialize`, each field as its serde attributes make it. Most fields are written only when
they differ from their default (`skip_serializing_if = "is_default"`) and read back under their
default; the five `Option` fields added for the built-in adapters and the post-processor carry only
`#[serde(default)]` and are always written, `null` when `None`; the six `#[serde(skip)]` fields are
never written and always read back at their defaults. The type of `custom_adapters`
(`CustomAdapterConfig`) and the cache directory behind `CachePath::default()` are defined outside
`config.rs` and enter as parameters.
-/
import RipgrepAll.Config.Serde

namespace RipgrepAll

open Json

theorem bind_eq_ok {ε α β : Type} {x : Except ε α} {f : α → Except ε β} {r : β} :
    x >>= f = .ok r ↔ ∃ a, x = .ok a ∧ f a = .ok r := by
  cases x <;> simp [bind, Except.bind]

/-! ## Newtypes -/

/-- A newtype struct is serialized as its field. -/
def CacheMaxBlobLen.serialize (x : CacheMaxBlobLen) : Json := serUsize x.val

def CacheMaxBlobLen.deserialize (v : Json) : Except DeError CacheMaxBlobLen := (deUsize v).map .mk

def CacheCompressionLevel.serialize (x : CacheCompressionLevel) : Json := serI32 x.val

def CacheCompressionLevel.deserialize (v : Json) : Except DeError CacheCompressionLevel :=
  (deI32 v).map .mk

def MaxArchiveRecursion.serialize (x : MaxArchiveRecursion) : Json := serI32 x.val

def MaxArchiveRecursion.deserialize (v : Json) : Except DeError MaxArchiveRecursion :=
  (deI32 v).map .mk

def CachePath.serialize (x : CachePath) : Json := serString x.val

def CachePath.deserialize (v : Json) : Except DeError CachePath := (deString v).map .mk

/-! ## The schema -/

/-- `CacheConfig`, the `cache` block. -/
structure CacheConfig where
  disabled : Bool
  maxBlobLen : CacheMaxBlobLen
  compressionLevel : CacheCompressionLevel
  path : CachePath
  deriving DecidableEq

/-- `RgaConfig`, over the type `A` of `CustomAdapterConfig`. -/
structure RgaConfig (A : Type) where
  accurate : Bool
  adapters : List String
  cache : CacheConfig
  maxArchiveRecursion : MaxArchiveRecursion
  noPrefixFilenames : Bool
  customAdapters : Option (List A)
  configFilePath : Option String
  fzfPath : Option String
  listAdapters : Bool
  printConfigSchema : Bool
  rgHelp : Bool
  rgVersion : Bool
  zipExtensions : Option (List String)
  ffmpegExtensions : Option (List String)
  postprocBinaryMarker : Option String
  postprocPagePrefix : Option String
  postprocPageIncludeEmpty : Option Bool

section Schema

variable (cacheDir : String) {A : Type} (adapter : Codec A)

/-- `CacheConfig::default()`, derived. -/
def CacheConfig.default : CacheConfig :=
  ⟨false, CacheMaxBlobLen.default, CacheCompressionLevel.default, CachePath.default cacheDir⟩

/-- `RgaConfig::default()`, derived. -/
def RgaConfig.default : RgaConfig A where
  accurate := false
  adapters := []
  cache := CacheConfig.default cacheDir
  maxArchiveRecursion := MaxArchiveRecursion.default
  noPrefixFilenames := false
  customAdapters := none
  configFilePath := none
  fzfPath := none
  listAdapters := false
  printConfigSchema := false
  rgHelp := false
  rgVersion := false
  zipExtensions := none
  ffmpegExtensions := none
  postprocBinaryMarker := none
  postprocPagePrefix := none
  postprocPageIncludeEmpty := none

/-- The entries `to_value` writes for a `CacheConfig`: every field under `is_default`. -/
def CacheConfig.entries (c : CacheConfig) : List (String × Option Json) :=
  [("compression_level", skipIf (isDefault .default) CacheCompressionLevel.serialize c.compressionLevel),
   ("disabled", skipIf (isDefault false) serBool c.disabled),
   ("max_blob_len", skipIf (isDefault .default) CacheMaxBlobLen.serialize c.maxBlobLen),
   ("path", skipIf (isDefault (CachePath.default cacheDir)) CachePath.serialize c.path)]

def CacheConfig.serialize (c : CacheConfig) : Json := objectOf (CacheConfig.entries cacheDir c)

/-- `CacheConfig::deserialize`: from a map every field under `#[serde(default)]`; from a sequence the
fields in declaration order. -/
def CacheConfig.deserialize : Json → Except DeError CacheConfig
  | .object m => do
    let disabled ← field m "disabled" deBool false
    let maxBlobLen ← field m "max_blob_len" CacheMaxBlobLen.deserialize .default
    let compressionLevel ← field m "compression_level" CacheCompressionLevel.deserialize .default
    let path ← field m "path" CachePath.deserialize (CachePath.default cacheDir)
    pure ⟨disabled, maxBlobLen, compressionLevel, path⟩
  | .array xs => do
    let (disabled, r) ← seqField deBool false xs
    let (maxBlobLen, r) ← seqField CacheMaxBlobLen.deserialize .default r
    let (compressionLevel, r) ← seqField CacheCompressionLevel.deserialize .default r
    let (path, r) ← seqField CachePath.deserialize (CachePath.default cacheDir) r
    seqEnd xs.length r ⟨disabled, maxBlobLen, compressionLevel, path⟩
  | _ => .error (.invalidType "struct CacheConfig")

/-- `custom_adapters` as `to_value` writes it. -/
def serAdapters (xs : Option (List A)) : Json := serOption (serVec fun a => (adapter.serialize a).json) xs

/-- The entries `to_value` writes for an `RgaConfig`. The `#[serde(skip)]` fields have none; the
five `Option` fields without `skip_serializing_if` always have one. -/
def RgaConfig.entries (c : RgaConfig A) : List (String × Option Json) :=
  [("accurate", skipIf (isDefault false) serBool c.accurate),
   ("adapters", skipIf (isDefault []) (serVec serString) c.adapters),
   ("cache", skipIf (isDefault (CacheConfig.default cacheDir)) (CacheConfig.serialize cacheDir) c.cache),
   ("custom_adapters", skipIf Option.isNone (serAdapters adapter) c.customAdapters),
   ("ffmpeg_extensions", some (serOption (serVec serString) c.ffmpegExtensions)),
   ("max_archive_recursion",
     skipIf (isDefault .default) MaxArchiveRecursion.serialize c.maxArchiveRecursion),
   ("no_prefix_filenames", skipIf (isDefault false) serBool c.noPrefixFilenames),
   ("postproc_binary_marker", some (serOption serString c.postprocBinaryMarker)),
   ("postproc_page_include_empty", some (serOption serBool c.postprocPageIncludeEmpty)),
   ("postproc_page_prefix", some (serOption serString c.postprocPagePrefix)),
   ("zip_extensions", some (serOption (serVec serString) c.zipExtensions))]

def RgaConfig.serialize (c : RgaConfig A) : Json := objectOf (RgaConfig.entries cacheDir adapter c)

/-- `RgaConfig::deserialize`: from a map every field under `#[serde(default)]`, from a sequence the
fields in declaration order; the `#[serde(skip)]` fields are not read and take their defaults. -/
def RgaConfig.deserialize : Json → Except DeError (RgaConfig A)
  | .object m => do
    let accurate ← field m "accurate" deBool false
    let adapters ← field m "adapters" (deVec deString) []
    let cache ← field m "cache" (CacheConfig.deserialize cacheDir) (CacheConfig.default cacheDir)
    let maxArchiveRecursion ←
      field m "max_archive_recursion" MaxArchiveRecursion.deserialize .default
    let noPrefixFilenames ← field m "no_prefix_filenames" deBool false
    let customAdapters ← field m "custom_adapters" (deOption (deVec adapter.deserialize)) none
    let zipExtensions ← field m "zip_extensions" (deOption (deVec deString)) none
    let ffmpegExtensions ← field m "ffmpeg_extensions" (deOption (deVec deString)) none
    let postprocBinaryMarker ← field m "postproc_binary_marker" (deOption deString) none
    let postprocPagePrefix ← field m "postproc_page_prefix" (deOption deString) none
    let postprocPageIncludeEmpty ← field m "postproc_page_include_empty" (deOption deBool) none
    pure ⟨accurate, adapters, cache, maxArchiveRecursion, noPrefixFilenames, customAdapters,
      none, none, false, false, false, false, zipExtensions, ffmpegExtensions, postprocBinaryMarker,
      postprocPagePrefix, postprocPageIncludeEmpty⟩
  | .array xs => do
    let (accurate, r) ← seqField deBool false xs
    let (adapters, r) ← seqField (deVec deString) [] r
    let (cache, r) ← seqField (CacheConfig.deserialize cacheDir) (CacheConfig.default cacheDir) r
    let (maxArchiveRecursion, r) ← seqField MaxArchiveRecursion.deserialize .default r
    let (noPrefixFilenames, r) ← seqField deBool false r
    let (customAdapters, r) ← seqField (deOption (deVec adapter.deserialize)) none r
    let (zipExtensions, r) ← seqField (deOption (deVec deString)) none r
    let (ffmpegExtensions, r) ← seqField (deOption (deVec deString)) none r
    let (postprocBinaryMarker, r) ← seqField (deOption deString) none r
    let (postprocPagePrefix, r) ← seqField (deOption deString) none r
    let (postprocPageIncludeEmpty, r) ← seqField (deOption deBool) none r
    seqEnd xs.length r ⟨accurate, adapters, cache, maxArchiveRecursion, noPrefixFilenames,
      customAdapters, none, none, false, false, false, false, zipExtensions, ffmpegExtensions,
      postprocBinaryMarker, postprocPagePrefix, postprocPageIncludeEmpty⟩
  | _ => .error (.invalidType "struct RgaConfig")

/-- The `#[serde(skip)]` fields are at their defaults. -/
def RgaConfig.SkipAtDefault (c : RgaConfig A) : Prop :=
  c.configFilePath = none ∧ c.fzfPath = none ∧ c.listAdapters = false ∧
    c.printConfigSchema = false ∧ c.rgHelp = false ∧ c.rgVersion = false

/-! ## Reading a map -/

theorem CacheConfig.deserialize_object {m : List (String × Json)} {c : CacheConfig} :
    CacheConfig.deserialize cacheDir (.object m) = .ok c ↔
      field m "disabled" deBool false = .ok c.disabled ∧
      field m "max_blob_len" CacheMaxBlobLen.deserialize .default = .ok c.maxBlobLen ∧
      field m "compression_level" CacheCompressionLevel.deserialize .default = .ok c.compressionLevel ∧
      field m "path" CachePath.deserialize (CachePath.default cacheDir) = .ok c.path := by
  simp only [CacheConfig.deserialize, bind_eq_ok, pure, Except.pure, Except.ok.injEq]
  constructor
  · rintro ⟨_, h₁, _, h₂, _, h₃, _, h₄, rfl⟩
    exact ⟨h₁, h₂, h₃, h₄⟩
  · rintro ⟨h₁, h₂, h₃, h₄⟩
    exact ⟨_, h₁, _, h₂, _, h₃, _, h₄, rfl⟩

/-- What `from_value` reads from a map: each field under its default, and the `#[serde(skip)]` fields
at theirs. -/
theorem RgaConfig.deserialize_object {m : List (String × Json)} {R : RgaConfig A} :
    RgaConfig.deserialize cacheDir adapter (.object m) = .ok R ↔
      field m "accurate" deBool false = .ok R.accurate ∧
      field m "adapters" (deVec deString) [] = .ok R.adapters ∧
      field m "cache" (CacheConfig.deserialize cacheDir) (CacheConfig.default cacheDir) = .ok R.cache ∧
      field m "max_archive_recursion" MaxArchiveRecursion.deserialize .default =
        .ok R.maxArchiveRecursion ∧
      field m "no_prefix_filenames" deBool false = .ok R.noPrefixFilenames ∧
      field m "custom_adapters" (deOption (deVec adapter.deserialize)) none = .ok R.customAdapters ∧
      field m "zip_extensions" (deOption (deVec deString)) none = .ok R.zipExtensions ∧
      field m "ffmpeg_extensions" (deOption (deVec deString)) none = .ok R.ffmpegExtensions ∧
      field m "postproc_binary_marker" (deOption deString) none = .ok R.postprocBinaryMarker ∧
      field m "postproc_page_prefix" (deOption deString) none = .ok R.postprocPagePrefix ∧
      field m "postproc_page_include_empty" (deOption deBool) none =
        .ok R.postprocPageIncludeEmpty ∧
      R.SkipAtDefault := by
  simp only [RgaConfig.deserialize, bind_eq_ok, pure, Except.pure, Except.ok.injEq]
  constructor
  · rintro ⟨_, h₁, _, h₂, _, h₃, _, h₄, _, h₅, _, h₆, _, h₇, _, h₈, _, h₉, _, h₁₀, _, h₁₁, rfl⟩
    exact ⟨h₁, h₂, h₃, h₄, h₅, h₆, h₇, h₈, h₉, h₁₀, h₁₁, rfl, rfl, rfl, rfl, rfl, rfl⟩
  · cases R
    rintro ⟨h₁, h₂, h₃, h₄, h₅, h₆, h₇, h₈, h₉, h₁₀, h₁₁, rfl, rfl, rfl, rfl, rfl, rfl⟩
    exact ⟨_, h₁, _, h₂, _, h₃, _, h₄, _, h₅, _, h₆, _, h₇, _, h₈, _, h₉, _, h₁₀, _, h₁₁, rfl⟩

end Schema

end RipgrepAll
