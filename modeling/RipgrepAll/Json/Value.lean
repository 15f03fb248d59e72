/-
`serde_json::Value` as `config.rs` uses it. A JSON tree stores an object as its entry list; the
map behind an object is a `BTreeMap<String, Value>`, so every object lists each key once, in
increasing key order. `Value` is a tree with that invariant. The map operations the merge needs
(lookup, and `entry(k).or_insert(Value::Null)` followed by an update in place) are modelled on the
sorted entry list, with their lookup laws and the extensionality that makes two sorted entry lists
with the same lookups equal.
-/
import Mathlib

namespace RipgrepAll

/-! ## Keys -/

/-- `Ord for str`, the order of a `BTreeMap<String, _>`: UTF-8 bytes compared lexicographically,
which orders strings by the code points of their characters. -/
def charsLt : List Char → List Char → Bool
  | _, [] => false
  | [], _ :: _ => true
  | c :: cs, d :: ds => c.toNat < d.toNat || (c = d && charsLt cs ds)

def keyLt (a b : String) : Bool := charsLt a.data b.data

theorem charsLt_irrefl : ∀ l : List Char, charsLt l l = false
  | [] => rfl
  | c :: cs => by simp [charsLt, charsLt_irrefl cs]

theorem charsLt_trans : ∀ {a b c : List Char}, charsLt a b → charsLt b c → charsLt a c
  | _, _, [], _, h => by simp [charsLt] at h
  | [], _, _ :: _, _, _ => rfl
  | _ :: _, [], _ :: _, h, _ => by simp [charsLt] at h
  | _ :: _, _ :: _, _ :: _, h₁, h₂ => by
    simp only [charsLt, Bool.or_eq_true, decide_eq_true_eq, Bool.and_eq_true] at *
    rcases h₁ with h₁ | ⟨rfl, h₁⟩ <;> rcases h₂ with h₂ | ⟨rfl, h₂⟩
    · exact .inl (by omega)
    · exact .inl h₁
    · exact .inl h₂
    · exact .inr ⟨rfl, charsLt_trans h₁ h₂⟩

theorem char_eq_of_toNat_eq {c d : Char} (h : c.toNat = d.toNat) : c = d := by
  rw [← Char.ofNat_toNat c, h, Char.ofNat_toNat]

theorem charsLt_total : ∀ {a b : List Char}, a ≠ b → charsLt a b ∨ charsLt b a
  | [], [], h => absurd rfl h
  | [], _ :: _, _ => .inl rfl
  | _ :: _, [], _ => .inr rfl
  | x :: xs, y :: ys, h => by
    simp only [charsLt, Bool.or_eq_true, decide_eq_true_eq, Bool.and_eq_true]
    by_cases hxy : x = y
    · subst hxy
      have hne : xs ≠ ys := fun e => h (by rw [e])
      rcases charsLt_total hne with h' | h'
      · exact .inl (.inr ⟨rfl, h'⟩)
      · exact .inr (.inr ⟨rfl, h'⟩)
    · have : x.toNat ≠ y.toNat := fun e => hxy (char_eq_of_toNat_eq e)
      omega

@[simp] theorem keyLt_irrefl (k : String) : keyLt k k = false := charsLt_irrefl _

theorem keyLt_trans {a b c : String} (h₁ : keyLt a b) (h₂ : keyLt b c) : keyLt a c :=
  charsLt_trans h₁ h₂

theorem keyLt_total {a b : String} (h : a ≠ b) : keyLt a b ∨ keyLt b a :=
  charsLt_total fun e => h (String.ext e)

theorem ne_of_keyLt {a b : String} (h : keyLt a b) : a ≠ b := by
  rintro rfl; simp at h

/-! ## Lookups by key -/

section Lookup

variable {β : Type}

@[simp] theorem lookup_cons (k j : String) (v : β) (m : List (String × β)) :
    ((k, v) :: m).lookup j = if j = k then some v else m.lookup j := by
  by_cases h : j = k
  · simp [List.lookup, h]
  · have : (j == k) = false := by simpa using h
    simp [List.lookup, h, this]

theorem lookup_mem : ∀ {m : List (String × β)} {k : String} {v : β},
    m.lookup k = some v → (k, v) ∈ m
  | (k', v') :: m, k, v, h => by
    by_cases hk : k = k'
    · subst hk; simp at h; simp [h]
    · simp only [lookup_cons, hk, if_false] at h; exact List.mem_cons_of_mem _ (lookup_mem h)

/-- In a list whose keys are distinct, an entry is what its key looks up. -/
theorem lookup_of_mem : ∀ {m : List (String × β)} {k : String} {v : β},
    (m.map (·.1)).Nodup → (k, v) ∈ m → m.lookup k = some v
  | (k', v') :: m, k, v, hn, hm => by
    simp only [List.map_cons, List.nodup_cons, List.mem_map] at hn
    rcases List.mem_cons.1 hm with h | h
    · cases h; simp
    · have : k ≠ k' := fun e => hn.1 ⟨(k, v), h, e⟩
      simp [this, lookup_of_mem hn.2 h]

end Lookup

/-! ## Trees -/

/-- `serde_json::Number`. `PosInt(u64)` and `NegInt(i64)` are one constructor here, told apart by
the sign; `Float(f64)` is kept as its bit pattern, since no field of the schema accepts a float. -/
inductive Number where
  | int (i : Int) (range : -2 ^ 63 ≤ i ∧ i < 2 ^ 64)
  | float (bits : UInt64)
  deriving DecidableEq

/-- The JSON trees of `serde_json::Value`, an object as its list of entries. -/
inductive Json where
  | null
  | bool (b : Bool)
  | number (n : Number)
  | string (s : String)
  | array (xs : List Json)
  | object (m : List (String × Json))

namespace Json

/-- The keys of an entry list strictly increase. -/
def KeysSorted (m : List (String × Json)) : Prop := m.Pairwise fun p q => keyLt p.1 q.1

instance : DecidablePred KeysSorted := fun m => inferInstanceAs (Decidable (List.Pairwise _ m))

mutual
/-- The tree is a `serde_json::Value`: every object in it is a `BTreeMap`, its keys increasing. -/
def canonical : Json → Bool
  | .array xs => canonicalItems xs
  | .object m => decide (KeysSorted m) && canonicalEntries m
  | _ => true

def canonicalItems : List Json → Bool
  | [] => true
  | x :: xs => x.canonical && canonicalItems xs

def canonicalEntries : List (String × Json) → Bool
  | [] => true
  | (_, v) :: m => v.canonical && canonicalEntries m
end

theorem canonicalItems_iff : ∀ xs : List Json, canonicalItems xs ↔ ∀ x ∈ xs, x.canonical
  | [] => by simp [canonicalItems]
  | x :: xs => by simp [canonicalItems, canonicalItems_iff xs]

@[simp] theorem canonical_array (xs : List Json) : (array xs).canonical ↔ ∀ x ∈ xs, x.canonical := by
  simp only [canonical, canonicalItems_iff]

theorem canonicalEntries_iff : ∀ m : List (String × Json),
    canonicalEntries m ↔ ∀ p ∈ m, p.2.canonical
  | [] => iff_of_true rfl fun _ h => nomatch h
  | (_, v) :: m => by
    simp only [canonicalEntries, Bool.and_eq_true, canonicalEntries_iff m, List.forall_mem_cons]

@[simp] theorem canonical_object (m : List (String × Json)) :
    (object m).canonical ↔ KeysSorted m ∧ ∀ p ∈ m, p.2.canonical := by
  simp only [canonical, Bool.and_eq_true, decide_eq_true_eq, canonicalEntries_iff]

theorem canonical_object_sorted {m : List (String × Json)} (h : (object m).canonical) :
    KeysSorted m :=
  ((canonical_object m).1 h).1

/-- `v[k₁][k₂]…`: the tree reached by following `p` through objects, `none` as soon as a key is
missing or a step is not an object. -/
def get : Json → List String → Option Json
  | v, [] => some v
  | .object m, k :: p => (m.lookup k).bind (·.get p)
  | _, _ :: _ => none

@[simp] theorem get_nil (v : Json) : v.get [] = some v := by cases v <;> rfl

@[simp] theorem get_object_cons (m : List (String × Json)) (k : String) (p : List String) :
    (object m).get (k :: p) = (m.lookup k).bind (·.get p) := rfl

/-- `map.entry(k).or_insert(Value::Null)` on a `BTreeMap`, with `f` then applied to the entry in
place: the search stops at the first key not below `k`. -/
def entryModify (k : String) (f : Json → Json) : List (String × Json) → List (String × Json)
  | [] => [(k, f .null)]
  | (k', v) :: rest =>
    if k = k' then (k', f v) :: rest
    else if keyLt k k' then (k, f .null) :: (k', v) :: rest
    else (k', v) :: entryModify k f rest

/-! ## Sorted entry lists -/

theorem lookup_eq_none_of_lt {k : String} :
    ∀ {m : List (String × Json)}, (∀ q ∈ m, keyLt k q.1) → m.lookup k = none
  | [], _ => rfl
  | (k', _) :: m, h => by
    have hk : k ≠ k' := ne_of_keyLt (h _ (List.mem_cons_self ..))
    simp [hk, lookup_eq_none_of_lt fun q hq => h q (List.mem_cons_of_mem _ hq)]

theorem lookup_tail_eq_none {k : String} {v : Json} {m : List (String × Json)}
    (hs : KeysSorted ((k, v) :: m)) : m.lookup k = none :=
  lookup_eq_none_of_lt fun _ hq => List.rel_of_pairwise_cons hs hq

theorem lookup_entryModify (k : String) (f : Json → Json) (j : String) :
    ∀ {m : List (String × Json)}, KeysSorted m →
      (entryModify k f m).lookup j = if j = k then some (f ((m.lookup k).getD .null)) else m.lookup j
  | [], _ => by by_cases h : j = k <;> simp [entryModify, h]
  | (k', v) :: rest, hs => by
    have hhead : ∀ q ∈ rest, keyLt k' q.1 := fun _ hq => List.rel_of_pairwise_cons hs hq
    simp only [entryModify]
    by_cases e : k = k'
    · subst e; by_cases h : j = k <;> simp [h]
    by_cases hlt : keyLt k k'
    · have hnone : ((k', v) :: rest).lookup k = none := lookup_eq_none_of_lt (by
        simp only [List.mem_cons, forall_eq_or_imp]
        exact ⟨hlt, fun q hq => keyLt_trans hlt (hhead q hq)⟩)
      rw [if_neg e, if_pos hlt, hnone]
      by_cases h : j = k <;> simp [h]
    · rw [if_neg e, if_neg hlt, lookup_cons, lookup_cons, if_neg e,
        lookup_entryModify k f j hs.of_cons]
      by_cases h : j = k <;> simp [h, e]

theorem mem_entryModify {k : String} {f : Json → Json} :
    ∀ {m : List (String × Json)}, KeysSorted m → ∀ {q : String × Json}, q ∈ entryModify k f m →
      q ∈ m ∨ q = (k, f ((m.lookup k).getD .null))
  | [], _, q, h => by simp [entryModify] at h; simp [h]
  | (k', v) :: rest, hs, q, h => by
    simp only [entryModify] at h
    split_ifs at h with e hlt
    · subst e; rcases List.mem_cons.1 h with rfl | h <;> simp_all
    · have : rest.lookup k = none := lookup_eq_none_of_lt fun _ hq =>
        keyLt_trans hlt (List.rel_of_pairwise_cons hs hq)
      rcases List.mem_cons.1 h with rfl | h
      · exact .inr (by simp [e, this])
      · exact .inl h
    · rcases List.mem_cons.1 h with rfl | h
      · simp
      · rcases mem_entryModify hs.of_cons h with h | h <;> simp_all

theorem keysSorted_entryModify (k : String) (f : Json → Json) :
    ∀ {m : List (String × Json)}, KeysSorted m → KeysSorted (entryModify k f m)
  | [], _ => List.pairwise_singleton _ _
  | (k', v) :: rest, hs => by
    have hr : KeysSorted rest := hs.of_cons
    have hhead : ∀ q ∈ rest, keyLt k' q.1 := fun _ hq => List.rel_of_pairwise_cons hs hq
    simp only [entryModify]
    split_ifs with e hlt
    · subst e; exact List.Pairwise.cons hhead hr
    · exact List.Pairwise.cons (by
        simp only [List.mem_cons, forall_eq_or_imp]
        exact ⟨hlt, fun q hq => keyLt_trans hlt (hhead q hq)⟩) hs
    · have hgt : keyLt k' k := (keyLt_total e).resolve_left hlt
      refine List.Pairwise.cons (fun q hq => ?_) (keysSorted_entryModify k f hr)
      rcases mem_entryModify hr hq with h | rfl
      · exact hhead q h
      · exact hgt

/-- Two sorted entry lists with the same lookups are the same list: a `BTreeMap` is determined by
its contents. -/
theorem KeysSorted.ext : ∀ {m₁ m₂ : List (String × Json)}, KeysSorted m₁ → KeysSorted m₂ →
    (∀ j, m₁.lookup j = m₂.lookup j) → m₁ = m₂
  | [], [], _, _, _ => rfl
  | [], (k, _) :: _, _, _, h => by simpa using h k
  | (k, _) :: _, [], _, _, h => by simpa using h k
  | (k₁, v₁) :: r₁, (k₂, v₂) :: r₂, s₁, s₂, h => by
    have hk : k₁ = k₂ := by
      by_contra e
      rcases keyLt_total e with hlt | hlt
      · have := h k₁
        simp [e, lookup_eq_none_of_lt fun q hq => keyLt_trans hlt (List.rel_of_pairwise_cons s₂ hq)]
          at this
      · have := h k₂
        simp [Ne.symm e, lookup_eq_none_of_lt fun q hq =>
          keyLt_trans hlt (List.rel_of_pairwise_cons s₁ hq)] at this
    subst hk
    have hv : v₁ = v₂ := by simpa using h k₁
    subst hv
    refine congrArg _ (KeysSorted.ext s₁.of_cons s₂.of_cons fun j => ?_)
    by_cases e : j = k₁
    · subst e; rw [lookup_tail_eq_none s₁, lookup_tail_eq_none s₂]
    · simpa [e] using h j

end Json

/-- `serde_json::Value`: a JSON tree whose objects are `BTreeMap`s. -/
structure Value where
  json : Json
  canonical : json.canonical = true

theorem Value.ext' {a b : Value} (h : a.json = b.json) : a = b := by
  cases a; cases b; cases h; rfl

end RipgrepAll
