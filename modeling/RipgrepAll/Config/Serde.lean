/-
The serde layer the config types go through: `serde_json::to_value` and `serde_json::from_value` for
the field types of `RgaConfig` (booleans, `i32`, `usize`, strings, `Vec`, `Option`), the field of a
derived struct under `#[serde(default)]`, read from a map or from a sequence, and the embedded types
whose impls live outside `config.rs` (`Codec`). Two facts carry the later proofs: every field type
round-trips, and the inputs each decoder accepts are closed under `json_merge` (`MergeClosed`).
-/
import RipgrepAll.Json.Merge
import RipgrepAll.Config.Scalar

namespace RipgrepAll

open Json

/-- A `serde_json::Error` of `from_value`, with serde's text for what was expected. -/
inductive DeError where
  | invalidType (expected : String)
  | invalidValue (expected : String)
  | invalidLength (len : Nat) (expected : String)
  deriving DecidableEq

/-- The serde impls of a type the config embeds from elsewhere in the crate. -/
structure Codec (α : Type) where
  serialize : α → Value
  deserialize : Json → Except DeError α

/-! ## Field types -/

/-- `bool::deserialize`. -/
def deBool : Json → Except DeError Bool
  | .bool b => .ok b
  | _ => .error (.invalidType "a boolean")

/-- `i32::deserialize`: an integer in range (`PosInt` is visited as a `u64`, `NegInt` as an `i64`). -/
def deI32 : Json → Except DeError I32
  | .number (.int i _) => if h : -2 ^ 31 ≤ i ∧ i < 2 ^ 31 then .ok ⟨i, h⟩ else .error (.invalidValue "i32")
  | _ => .error (.invalidType "i32")

/-- `usize::deserialize`. -/
def deUsize : Json → Except DeError Usize
  | .number (.int i h) => if h' : 0 ≤ i then .ok ⟨i.toNat, by omega⟩ else .error (.invalidValue "usize")
  | _ => .error (.invalidType "usize")

/-- `String::deserialize`. -/
def deString : Json → Except DeError String
  | .string s => .ok s
  | _ => .error (.invalidType "a string")

/-- `Vec<T>::deserialize`: an array, decoded item by item. -/
def deVec {α : Type} (de : Json → Except DeError α) : Json → Except DeError (List α)
  | .array xs => xs.mapM de
  | _ => .error (.invalidType "a sequence")

/-- `Option<T>::deserialize`: `null` is `None`, anything else a `Some`. -/
def deOption {α : Type} (de : Json → Except DeError α) : Json → Except DeError (Option α)
  | .null => .ok none
  | v => some <$> de v

def serBool (b : Bool) : Json := .bool b

/-- An `i32` serializes to `PosInt` when non-negative, else to `NegInt`. -/
def serI32 (x : I32) : Json := .number (.int x.val ⟨by have := x.range; omega, by have := x.range; omega⟩)

def serUsize (x : Usize) : Json := .number (.int x.val ⟨by omega, by exact_mod_cast x.lt⟩)

def serString (s : String) : Json := .string s

def serVec {α : Type} (ser : α → Json) (xs : List α) : Json := .array (xs.map ser)

def serOption {α : Type} (ser : α → Json) : Option α → Json
  | none => .null
  | some x => ser x

/-! ## Round trips of the field types -/

@[simp] theorem deBool_serBool (b : Bool) : deBool (serBool b) = .ok b := rfl

@[simp] theorem deI32_serI32 (x : I32) : deI32 (serI32 x) = .ok x := by
  simp only [deI32, serI32]
  split
  · rfl
  · have := x.range; omega

@[simp] theorem deUsize_serUsize (x : Usize) : deUsize (serUsize x) = .ok x := by
  simp [deUsize, serUsize]

@[simp] theorem deString_serString (s : String) : deString (serString s) = .ok s := rfl

theorem deVec_serVec {α : Type} {de : Json → Except DeError α} {ser : α → Json} :
    ∀ {xs : List α}, (∀ x ∈ xs, de (ser x) = .ok x) → deVec de (serVec ser xs) = .ok xs
  | [], _ => rfl
  | x :: xs, h => by
    have ih := deVec_serVec fun y hy => h y (List.mem_cons_of_mem x hy)
    simp only [deVec, serVec] at ih ⊢
    rw [List.map_cons, List.mapM_cons, h x (List.mem_cons_self x xs), ih]
    rfl

theorem deOption_serOption {α : Type} {de : Json → Except DeError α} {ser : α → Json}
    (h : ∀ x, de (ser x) = .ok x) (hn : ∀ x, ser x ≠ .null) :
    ∀ o : Option α, deOption de (serOption ser o) = .ok o
  | none => rfl
  | some x => by
    simp only [serOption, deOption]
    split
    · exact absurd ‹_› (hn x)
    · simp [h]

/-! ## Fields of a derived struct -/

/-- A field under `#[serde(default)]` of a struct read from a map: its entry decoded, or the default
when the key is absent. -/
def field {α : Type} (m : List (String × Json)) (key : String) (de : Json → Except DeError α)
    (dflt : α) : Except DeError α :=
  match m.lookup key with
  | none => .ok dflt
  | some v => de v

/-- A field under `#[serde(default)]` of a struct read from a sequence: the next element decoded,
or the default once the sequence is exhausted. -/
def seqField {α : Type} (de : Json → Except DeError α) (dflt : α) :
    List Json → Except DeError (α × List Json)
  | [] => .ok (dflt, [])
  | x :: xs => (de x).map (·, xs)

/-- What `visit_array` checks after the visitor: no element is left over. -/
def seqEnd {α : Type} (len : Nat) (rest : List Json) (x : α) : Except DeError α :=
  if rest.isEmpty then .ok x else .error (.invalidLength len "fewer elements in array")

/-- `is_default`: `t == &T::default()`. -/
def isDefault {α : Type} [DecidableEq α] (dflt x : α) : Bool := x = dflt

/-- The value of an entry under `skip_serializing_if`: `none` when `skip` holds. -/
def skipIf {α : Type} (skip : α → Bool) (ser : α → Json) (x : α) : Option Json :=
  if skip x then none else some (ser x)

/-- `serde_json::to_value` of a derived struct: a map of the entries not skipped. A map keeps its
keys sorted, so a struct's entries are listed in key order, not in declaration order. -/
def objectOf (entries : List (String × Option Json)) : Json :=
  .object (entries.filterMap fun e => e.2.map (e.1, ·))

theorem mem_objectOf {entries : List (String × Option Json)} {q : String × Json}
    (h : q ∈ entries.filterMap fun e => e.2.map (e.1, ·)) : (q.1, some q.2) ∈ entries := by
  obtain ⟨⟨k, v?⟩, he, hq⟩ := List.mem_filterMap.1 h
  obtain ⟨v, rfl, rfl⟩ := Option.map_eq_some'.1 hq
  exact he

theorem keysSorted_objectOf {entries : List (String × Option Json)}
    (hs : (entries.map (·.1)).Pairwise fun a b => keyLt a b) :
    KeysSorted (entries.filterMap fun e => e.2.map (e.1, ·)) := by
  refine List.Pairwise.filterMap _ (fun a b hab x hx y hy => ?_) (List.pairwise_map.1 hs)
  obtain ⟨v, -, rfl⟩ := Option.map_eq_some'.1 hx
  obtain ⟨w, -, rfl⟩ := Option.map_eq_some'.1 hy
  exact hab

theorem canonical_objectOf {entries : List (String × Option Json)}
    (hs : (entries.map (·.1)).Pairwise fun a b => keyLt a b)
    (hc : ∀ e ∈ entries, ∀ v ∈ e.2, v.canonical) : (objectOf entries).canonical :=
  (canonical_object _).2 ⟨keysSorted_objectOf hs, fun q hq => hc _ (mem_objectOf hq) q.2 rfl⟩

/-- The entry a derived struct's serialization holds for a key: the value written, or nothing where
the entry was skipped. -/
theorem lookup_objectOf {entries : List (String × Option Json)}
    (hs : (entries.map (·.1)).Pairwise fun a b => keyLt a b) {key : String} {v? : Option Json}
    (hk : (key, v?) ∈ entries) : (entries.filterMap fun e => e.2.map (e.1, ·)).lookup key = v? := by
  have hsk := keysSorted_objectOf hs
  cases v? with
  | some v => exact KeysSorted.lookup_of_mem hsk (List.mem_filterMap.2 ⟨(key, some v), hk, rfl⟩)
  | none =>
    cases h : (entries.filterMap fun e => e.2.map (e.1, ·)).lookup key with
    | none => rfl
    | some w =>
      have hn := List.Pairwise.imp (fun h => ne_of_keyLt h) hs
      have := lookup_of_mem hn (mem_objectOf (lookup_mem h))
      rw [lookup_of_mem hn hk] at this
      cases this

/-- The field a derived struct reads back from its own serialization: the entry's value decoded,
or the default where the entry was skipped. -/
theorem field_objectOf {α : Type} {entries : List (String × Option Json)}
    (hs : (entries.map (·.1)).Pairwise fun a b => keyLt a b) {key : String} {v? : Option Json}
    (hk : (key, v?) ∈ entries) (de : Json → Except DeError α) (dflt : α) :
    field (entries.filterMap fun e => e.2.map (e.1, ·)) key de dflt = v?.elim (.ok dflt) de := by
  unfold field
  rw [lookup_objectOf hs hk]
  cases v? <;> rfl

/-- A field written under `skip_serializing_if` and read back under `#[serde(default)]` is the
value written, skipped or not, when skipping only drops the default. -/
theorem field_skipIf {α : Type} {entries : List (String × Option Json)}
    (hs : (entries.map (·.1)).Pairwise fun a b => keyLt a b) {key : String}
    {skip : α → Bool} {ser : α → Json} {x : α} (hk : (key, skipIf skip ser x) ∈ entries)
    {de : Json → Except DeError α} (h : de (ser x) = .ok x) {dflt : α} (hd : skip x → x = dflt) :
    field (entries.filterMap fun e => e.2.map (e.1, ·)) key de dflt = .ok x := by
  rw [field_objectOf hs hk]
  unfold skipIf
  split_ifs with hx
  · simp [hd hx]
  · exact h

/-! ## Merging accepted inputs -/

/-- `de` accepts `v`. -/
def Accepts {α : Type} (de : Json → Except DeError α) (v : Json) : Prop := ∃ x, de v = .ok x

/-- The inputs `de` accepts are closed under `json_merge`. -/
def MergeClosed {α : Type} (de : Json → Except DeError α) : Prop :=
  ∀ a b : Json, a.canonical → b.canonical → Accepts de a → Accepts de b → Accepts de (a.merge b)

/-- `de` accepts no object. -/
def RejectsObjects {α : Type} (de : Json → Except DeError α) : Prop :=
  ∀ m x, de (.object m) ≠ .ok x

theorem isObject_of_accepts {α : Type} {de : Json → Except DeError α} (h : RejectsObjects de)
    {v : Json} (hv : Accepts de v) : v.isObject = false := by
  obtain ⟨x, hx⟩ := hv
  cases v <;> first | rfl | exact absurd hx (h _ x)

/-- A decoder that accepts no object is merge-closed: an accepted right side replaces the left. -/
theorem RejectsObjects.mergeClosed {α : Type} {de : Json → Except DeError α} (h : RejectsObjects de) :
    MergeClosed de := fun _ _ _ _ _ hb => by
  rwa [merge_of_isObject_right (isObject_of_accepts h hb)]

theorem deBool_rejectsObjects : RejectsObjects deBool := fun _ _ => nofun
theorem deI32_rejectsObjects : RejectsObjects deI32 := fun _ _ => nofun
theorem deUsize_rejectsObjects : RejectsObjects deUsize := fun _ _ => nofun
theorem deString_rejectsObjects : RejectsObjects deString := fun _ _ => nofun

theorem deVec_rejectsObjects {α : Type} (de : Json → Except DeError α) : RejectsObjects (deVec de) :=
  fun _ _ => nofun

theorem deOption_rejectsObjects {α : Type} {de : Json → Except DeError α} (h : RejectsObjects de) :
    RejectsObjects (deOption de) := fun m x hx => by
  simp only [deOption] at hx
  cases hd : de (.object m) with
  | error e => rw [hd] at hx; cases hx
  | ok y => exact h m y hd

theorem RejectsObjects.map {α β : Type} {de : Json → Except DeError α} (h : RejectsObjects de)
    (f : α → β) : RejectsObjects fun v => (de v).map f := fun m x hx => by
  simp only at hx
  cases hd : de (.object m) with
  | error e => rw [hd] at hx; cases hx
  | ok y => exact h m y hd

/-- The entry a field reads from a merge of two maps. -/
theorem field_mergeEntries {α : Type} {ma mb : List (String × Json)} (sa : KeysSorted ma)
    (sb : KeysSorted mb) (key : String) (de : Json → Except DeError α) (dflt : α) :
    field (mergeEntries ma mb) key de dflt =
      match mb.lookup key with
      | none => field ma key de dflt
      | some v => de (((ma.lookup key).getD .null).merge v) := by
  unfold field
  rw [lookup_mergeEntries key sa sb]
  cases mb.lookup key <;> rfl

/-- A field whose decoder is merge-closed reads a merge of two maps whenever it reads each. -/
theorem field_accepts_mergeEntries {α : Type} {ma mb : List (String × Json)}
    (ha : (object ma).canonical) (hb : (object mb).canonical) (key : String)
    {de : Json → Except DeError α} (hde : MergeClosed de) (dflt : α)
    (h₁ : ∃ x, field ma key de dflt = .ok x) (h₂ : ∃ x, field mb key de dflt = .ok x) :
    ∃ x, field (mergeEntries ma mb) key de dflt = .ok x := by
  rw [field_mergeEntries (canonical_object_sorted ha) (canonical_object_sorted hb)]
  cases hbk : mb.lookup key with
  | none => exact h₁
  | some v =>
    simp only [field, hbk] at h₂
    cases hak : ma.lookup key with
    | none => simpa using h₂
    | some u =>
      simp only [field, hak] at h₁
      exact hde u v (canonical_of_lookup ha hak) (canonical_of_lookup hb hbk) h₁ h₂

end RipgrepAll
