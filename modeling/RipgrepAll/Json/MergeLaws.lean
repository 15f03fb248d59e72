/-
The laws of `json_merge` at key paths, for every pair of values and every path: a non-object of the
right value is what the merge holds there; a left value survives where the right value is
undefined below objects; the merge holds nothing neither side holds. Associativity fails as soon as
a middle value replaces an object path of the left value that the right value rebuilds as an
object; without such a cut it holds.
-/
import RipgrepAll.Json.Merge

namespace RipgrepAll

namespace Json

/-! ## Path laws -/

theorem get_merge_of_right : ∀ (p : List String) {a b v : Json}, a.canonical → b.canonical →
    b.get p = some v → v.isObject = false → (a.merge b).get p = some v
  | [], _, _, _, _, _, hb, hv => by
    simp only [get_nil, Option.some.injEq] at hb; subst hb; simp [merge_of_isObject_right hv]
  | k :: p, a, b, v, ha, hb, hbp, hv => by
    cases b with
    | object mb =>
      cases a with
      | object ma =>
        simp only [merge_object, get_object_cons] at hbp ⊢
        rw [lookup_mergeEntries k (canonical_object_sorted ha) (canonical_object_sorted hb)]
        cases hk : mb.lookup k with
        | none => simp [hk] at hbp
        | some bk =>
          simp only [hk, Option.some_bind, mergeOpt_some] at hbp ⊢
          exact get_merge_of_right p (canonical_getD_lookup ha k) (canonical_of_lookup hb hk) hbp hv
      | _ => simpa [merge] using hbp
    | _ => simp [get] at hbp

theorem get_merge_of_left : ∀ (p : List String) {a b v : Json}, a.canonical → b.canonical →
    a.get p = some v → b.get p = none →
    (∀ q, q <+: p → q ≠ p → ∀ w, b.get q = some w → w.isObject) → (a.merge b).get p = some v
  | [], _, _, _, _, _, _, hb, _ => by simp at hb
  | k :: p, a, b, v, ha, hb, hap, hbp, hpre => by
    obtain ⟨mb, rfl⟩ := eq_object_of_isObject (hpre [] (List.nil_prefix) (by simp) b (by simp))
    cases a with
    | object ma =>
      simp only [merge_object, get_object_cons] at hap hbp ⊢
      rw [lookup_mergeEntries k (canonical_object_sorted ha) (canonical_object_sorted hb)]
      cases hak : ma.lookup k with
      | none => simp [hak] at hap
      | some ak =>
        simp only [hak, Option.some_bind] at hap
        cases hbk : mb.lookup k with
        | none => simpa using hap
        | some bk =>
          simp only [hbk, Option.some_bind] at hbp
          simp only [mergeOpt_some, Option.getD_some, Option.some_bind]
          refine get_merge_of_left p (canonical_of_lookup ha hak) (canonical_of_lookup hb hbk) hap hbp
            fun q hq hne w hw => hpre (k :: q) (List.prefix_cons_inj k |>.2 hq)
              (by simpa using hne) w (by simp [hbk, hw])
    | _ => simp [get] at hap

theorem get_merge_isSome : ∀ (p : List String) {a b v : Json}, a.canonical → b.canonical →
    (a.merge b).get p = some v → (a.get p).isSome ∨ (b.get p).isSome
  | [], _, _, _, _, _, _ => by simp
  | k :: p, a, b, v, ha, hb, h => by
    cases a with
    | object ma =>
      cases b with
      | object mb =>
        simp only [merge_object, get_object_cons] at h ⊢
        rw [lookup_mergeEntries k (canonical_object_sorted ha) (canonical_object_sorted hb)] at h
        cases hbk : mb.lookup k with
        | none => exact .inl (by simp only [hbk, mergeOpt_none] at h; simp [h])
        | some bk =>
          simp only [hbk, mergeOpt_some, Option.some_bind] at h
          rcases get_merge_isSome p (canonical_getD_lookup ha k) (canonical_of_lookup hb hbk) h
            with h' | h'
          · cases hak : ma.lookup k with
            | none =>
              cases p with
              | nil => exact .inr (by simp [hbk])
              | cons k' p => simp [hak, get] at h'
            | some ak => exact .inl (by simpa [hak] using h')
          · exact .inr (by simpa [hbk] using h')
      | _ => exact .inr (by simp only [merge] at h; simp [h])
    | _ => exact .inr (by simp only [merge] at h; simp [h])

/-! ## Associativity -/

/-- No key path at which `a` and `c` both hold objects holds a non-object in `b`. -/
def NoCut (a b c : Json) : Prop :=
  ∀ p ma mc v, a.get p = some (object ma) → c.get p = some (object mc) → b.get p = some v →
    v.isObject

theorem NoCut.child {ma mb mc : List (String × Json)} (h : NoCut (object ma) (object mb) (object mc))
    {j : String} {u w : Json} (hu : mb.lookup j = some u) (hw : mc.lookup j = some w) :
    NoCut ((ma.lookup j).getD null) u w := by
  intro p ma' mc' v ha hc hb
  cases haj : ma.lookup j with
  | none =>
    cases p with
    | nil => simp [haj] at ha
    | cons k p => simp [haj, get] at ha
  | some aj =>
    rw [haj, Option.getD_some] at ha
    exact h (j :: p) ma' mc' v (by simp [haj, ha]) (by simp [hw, hc]) (by simp [hu, hb])

theorem mergeOpt_assoc (x y z : Option Json)
    (h : ∀ u w, y = some u → z = some w →
      ((x.getD null).merge u).merge w = (x.getD null).merge (u.merge w)) :
    mergeOpt (mergeOpt x y) z = mergeOpt x (mergeOpt y z) := by
  cases z with
  | none => rfl
  | some w =>
    cases y with
    | none => simp
    | some u => simp [h u w rfl rfl]

theorem merge_assoc : ∀ c a b : Json, a.canonical → b.canonical → c.canonical → NoCut a b c →
    (a.merge b).merge c = a.merge (b.merge c) := by
  refine objInduction (fun mc ih a b ha hb hc hcut => ?_) (fun c hc a b _ _ _ _ => by
    simp [merge_of_isObject_right hc])
  cases hbo : b.isObject with
  | false =>
    rw [merge_of_isObject_right hbo, merge_of_isObject_left _ hbo]
    cases a with
    | object ma => simpa [hbo] using hcut [] ma mc b (get_nil _) (get_nil _) (get_nil _)
    | _ => rfl
  | true =>
    obtain ⟨mb, rfl⟩ := eq_object_of_isObject hbo
    cases a with
    | object ma =>
      have sa := canonical_object_sorted ha
      have sb := canonical_object_sorted hb
      have sc := canonical_object_sorted hc
      simp only [merge_object, object.injEq]
      refine KeysSorted.ext (keysSorted_mergeEntries _ (keysSorted_mergeEntries _ sa))
        (keysSorted_mergeEntries _ sa) fun j => ?_
      rw [lookup_mergeEntries j (keysSorted_mergeEntries _ sa) sc, lookup_mergeEntries j sa sb,
        lookup_mergeEntries j sa (keysSorted_mergeEntries _ sb), lookup_mergeEntries j sb sc]
      refine mergeOpt_assoc _ _ _ fun u w hu hw => ih (j, w) (lookup_mem hw) _ _
        (canonical_getD_lookup ha j) (canonical_of_lookup hb hu) (canonical_of_lookup hc hw)
        (hcut.child hu hw)
    | _ => rfl

/-! ## Idempotence -/

/-- A tree merged into itself is unchanged. -/
theorem merge_self : ∀ a : Json, a.canonical → a.merge a = a := by
  refine objInduction (fun m ih ha => ?_) (fun a ha _ => merge_of_isObject_right ha)
  have sa := canonical_object_sorted ha
  rw [merge_object, object.injEq]
  refine KeysSorted.ext (keysSorted_mergeEntries m sa) sa fun j => ?_
  rw [lookup_mergeEntries j sa sa]
  cases hj : m.lookup j with
  | none => rfl
  | some v =>
    rw [mergeOpt_some, Option.getD_some, ih (j, v) (lookup_mem hj) (canonical_of_lookup ha hj)]

/-- Merging the same tree a second time changes nothing: where `b` holds an object, so does `b`,
so nothing cuts the merge, and `b` merged into itself is `b`. -/
theorem merge_merge_self {a b : Json} (ha : a.canonical) (hb : b.canonical) :
    (a.merge b).merge b = a.merge b := by
  have hcut : NoCut a b b := fun p _ mc v _ hc hv => by
    rw [hc] at hv
    cases hv
    rfl
  rw [merge_assoc b a b ha hb hb hcut, merge_self b hb]

/-- Merging `b` over a map whose every key `b` also holds, under a value that is not an object,
gives `b`. -/
theorem merge_eq_right {ma mb : List (String × Json)} (sa : KeysSorted ma) (sb : KeysSorted mb)
    (h : ∀ p ∈ ma, p.2.isObject = false ∧ (mb.lookup p.1).isSome) :
    (object ma).merge (object mb) = object mb := by
  rw [merge_object, object.injEq]
  refine KeysSorted.ext (keysSorted_mergeEntries mb sa) sb fun j => ?_
  rw [lookup_mergeEntries j sa sb]
  cases ha : ma.lookup j with
  | none =>
    cases mb.lookup j with
    | none => rfl
    | some w => exact congrArg some (null_merge w)
  | some v =>
    have hv := h (j, v) (lookup_mem ha)
    obtain ⟨w, hw⟩ := Option.isSome_iff_exists.1 hv.2
    rw [hw, mergeOpt_some, Option.getD_some, merge_of_isObject_left w hv.1]

end Json

/-- The last-write-wins laws of `json_merge` at every key path `p`: (i) where the right value holds
a non-object, so does the merge; (ii) where the left value holds `v`, the right value is undefined
and every proper prefix at which it is defined is an object, the merge holds `v`; (iii) the merge
is defined only where one of the two sides is. -/
theorem jsonMerge_get (a b : Value) (p : List String) :
    (∀ v, b.json.get p = some v → v.isObject = false → (jsonMerge a b).json.get p = some v) ∧
    (∀ v, a.json.get p = some v → b.json.get p = none →
      (∀ q, q <+: p → q ≠ p → ∀ w, b.json.get q = some w → w.isObject) →
      (jsonMerge a b).json.get p = some v) ∧
    (∀ v, (jsonMerge a b).json.get p = some v → (a.json.get p).isSome ∨ (b.json.get p).isSome) :=
  ⟨fun _ => Json.get_merge_of_right p a.canonical b.canonical,
    fun _ => Json.get_merge_of_left p a.canonical b.canonical,
    fun _ => Json.get_merge_isSome p a.canonical b.canonical⟩

/-- Associativity fails: `{"k": null}`, then `null`, then `{}`. Merged left to right the middle
`null` erases the object and `{}` replaces it; merged right first, `{}` is merged into
`{"k": null}` and the key survives. -/
theorem jsonMerge_not_assoc :
    ¬ ∀ a b c : Value, jsonMerge (jsonMerge a b) c = jsonMerge a (jsonMerge b c) := by
  intro h
  have := congrArg Value.json
    (h ⟨.object [("k", .null)], rfl⟩ ⟨.null, rfl⟩ ⟨.object [], rfl⟩)
  simp [Json.merge, Json.mergeEntries] at this

/-- Associativity where no key path that is an object in `a` and in `c` is a non-object in `b`. -/
theorem jsonMerge_assoc (a b c : Value) (h : Json.NoCut a.json b.json c.json) :
    jsonMerge (jsonMerge a b) c = jsonMerge a (jsonMerge b c) :=
  Value.ext' (Json.merge_assoc _ _ _ a.canonical b.canonical c.canonical h)

/-- `{"x": {"y": null}}`, `{"x": {"z": true}}` and `{"x": {"y": false}}`: all three hold an object at
`x`, so both ways of merging them recurse there. -/
def nestedA : Value := ⟨.object [("x", .object [("y", .null)])], rfl⟩

def nestedB : Value := ⟨.object [("x", .object [("z", .bool true)])], rfl⟩

def nestedC : Value := ⟨.object [("x", .object [("y", .bool false)])], rfl⟩

theorem jsonMerge_assoc_objects :
    Json.NoCut nestedA.json nestedB.json nestedC.json ∧
      jsonMerge (jsonMerge nestedA nestedB) nestedC = jsonMerge nestedA (jsonMerge nestedB nestedC) := by
  have hcut : Json.NoCut nestedA.json nestedB.json nestedC.json := by
    intro p ma mc v ha _ hb
    rcases p with _ | ⟨k, _ | ⟨k', p⟩⟩
    · simp only [Json.get_nil, Option.some.injEq] at hb
      simp [← hb, nestedB]
    · cases hk : k == "x" <;> simp only [nestedA, nestedB, Json.get_object_cons, List.lookup, hk] at ha hb
      · cases ha
      · cases hb; rfl
    · cases hk : k == "x" <;> cases hk' : k' == "y" <;> cases p <;>
        simp [nestedA, List.lookup, hk, hk', Json.get] at ha
  exact ⟨hcut, jsonMerge_assoc _ _ _ hcut⟩

/-- `json_merge` is idempotent: a document merged into itself is unchanged, and merging the same
document a second time changes nothing, whatever was merged before it. -/
theorem jsonMerge_idempotent (a b : Value) :
    jsonMerge a a = a ∧ jsonMerge (jsonMerge a b) b = jsonMerge a b :=
  ⟨Value.ext' (Json.merge_self _ a.canonical), Value.ext' (Json.merge_merge_self a.canonical b.canonical)⟩

end RipgrepAll
