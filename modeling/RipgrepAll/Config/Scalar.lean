/-
The scalar config types of `config.rs` (`CacheCompressionLevel`, `MaxArchiveRecursion`, `CachePath`,
`CacheMaxBlobLen`) with their `Display`, `FromStr` and `Default`. The integer types are modelled as
Rust has them (`i32`, and `usize` of a 64-bit target), with `from_str_radix` at radix 10 and the
decimal rendering of `{}`. Every value renders to text that parses back to itself; the byte-size
parser strips every trailing copy of its unit suffix and multiplies without an overflow check.
The last section gives the exact language each parser accepts: `usize::from_str` a decimal text
(an optional `+`, then digits) whose value fits, `CacheMaxBlobLen::from_str` such a text alone or
followed by copies of one unit letter, and the derived `FromStr` of the two `i32` newtypes an
optional sign and digits whose value fits.
-/
import Mathlib

namespace RipgrepAll

/-! ## Machine integers -/

/-- A `usize` of the 64-bit targets rga is built for. -/
structure Usize where
  val : Nat
  lt : val < 2 ^ 64
  deriving DecidableEq

/-- An `i32`. -/
structure I32 where
  val : Int
  range : -2 ^ 31 ≤ val ∧ val < 2 ^ 31
  deriving DecidableEq

/-- `*` on `usize` as a release build runs it: the product wraps around at `2^64` (a debug build
panics there instead). -/
def Usize.mul (a : Usize) (b : Nat) : Usize := ⟨a.val * b % 2 ^ 64, Nat.mod_lt _ (by norm_num)⟩

/-- `core::num::IntErrorKind`, the kinds of `ParseIntError` `from_str_radix` returns. -/
inductive IntErrorKind where
  | empty
  | invalidDigit
  | posOverflow
  | negOverflow
  deriving DecidableEq

/-- `(c as char).to_digit(10)`. -/
def toDigit (c : Char) : Option Nat := if 48 ≤ c.toNat ∧ c.toNat < 58 then some (c.toNat - 48) else none

/-- The digit loop of `from_str_radix`: `result * 10 + digit` for each character, a character that
is not a digit rejected before the overflow check, and a result above `bound` an overflow. -/
def accumulate (bound : Nat) (overflow : IntErrorKind) :
    {n // n ≤ bound} → List Char → Except IntErrorKind {n // n ≤ bound}
  | acc, [] => .ok acc
  | acc, c :: cs =>
    match toDigit c with
    | none => .error .invalidDigit
    | some d => if h : acc.1 * 10 + d ≤ bound then accumulate bound overflow ⟨_, h⟩ cs
      else .error overflow

/-- `from_str_radix(src, 10)` for an integer type of range `-lo ..= hi`. A lone sign is an invalid
digit; `+` is skipped; `-` is a sign only when `signed`, and for an unsigned type it is left to the
digit loop, which rejects it. -/
def fromStrRadix (signed : Bool) (lo hi : Nat) (src : String) :
    Except IntErrorKind {i : Int // -(lo : Int) ≤ i ∧ i ≤ hi} :=
  match src.data with
  | [] => .error .empty
  | ['+'] | ['-'] => .error .invalidDigit
  | '+' :: ds => positive ds
  | '-' :: ds => if signed then negative ds else positive ('-' :: ds)
  | ds => positive ds
where
  positive (ds : List Char) := (accumulate hi .posOverflow ⟨0, Nat.zero_le _⟩ ds).map
    fun n => ⟨n.1, by omega, by exact_mod_cast n.2⟩
  negative (ds : List Char) := (accumulate lo .negOverflow ⟨0, Nat.zero_le _⟩ ds).map
    fun n => ⟨-(n.1 : Int), by have := n.2; omega, by omega⟩

/-- `usize::from_str`. -/
def Usize.fromStr (s : String) : Except IntErrorKind Usize :=
  (fromStrRadix false 0 (2 ^ 64 - 1) s).map fun i => ⟨i.1.toNat, by omega⟩

/-- `i32::from_str`. -/
def I32.fromStr (s : String) : Except IntErrorKind I32 :=
  (fromStrRadix true (2 ^ 31) (2 ^ 31 - 1) s).map fun i => ⟨i.1, by omega, by omega⟩

def digitChar (d : Nat) : Char := Char.ofNat (48 + d)

/-- The digits `{}` prints for a natural number. -/
def decimal (n : Nat) : List Char :=
  if n < 10 then [digitChar n] else decimal (n / 10) ++ [digitChar (n % 10)]

/-- `write!(f, "{}", n)` for a `usize`. -/
def Usize.toString (n : Usize) : String := ⟨decimal n.val⟩

/-- `write!(f, "{}", n)` for an `i32`. -/
def I32.toString (n : I32) : String :=
  if n.val < 0 then ⟨'-' :: decimal n.val.natAbs⟩ else ⟨decimal n.val.toNat⟩

/-! ## Decimal round trip -/

theorem toDigit_digitChar {d : Nat} (h : d < 10) : toDigit (digitChar d) = some d := by
  interval_cases d <;> rfl

theorem decimal_head (n : Nat) : ∃ c cs, decimal n = c :: cs ∧ (toDigit c).isSome := by
  induction n using Nat.strong_induction_on with
  | _ n ih =>
    rw [decimal]
    split
    · exact ⟨_, [], rfl, by simp [toDigit_digitChar ‹n < 10›]⟩
    · obtain ⟨c, cs, h, hc⟩ := ih (n / 10) (by omega)
      exact ⟨c, cs ++ [digitChar (n % 10)], by simp [h], hc⟩

theorem accumulate_append (bound : Nat) (e : IntErrorKind) :
    ∀ (acc : {n // n ≤ bound}) (l₁ l₂ : List Char), accumulate bound e acc (l₁ ++ l₂) =
      accumulate bound e acc l₁ >>= fun acc' => accumulate bound e acc' l₂
  | _, [], _ => rfl
  | acc, c :: cs, l₂ => by
    simp only [List.cons_append, accumulate]
    cases toDigit c with
    | none => rfl
    | some d =>
      dsimp only
      by_cases h : acc.1 * 10 + d ≤ bound
      · simp only [dif_pos h]; exact accumulate_append bound e _ cs l₂
      · simp only [dif_neg h]; rfl

/-- The digit loop reads back the decimal digits of any number within its bound. -/
theorem accumulate_decimal (bound : Nat) (e : IntErrorKind) :
    ∀ n (h : n ≤ bound), accumulate bound e ⟨0, Nat.zero_le _⟩ (decimal n) = .ok ⟨n, h⟩ := by
  intro n
  induction n using Nat.strong_induction_on with
  | _ n ih =>
    intro h
    rw [decimal]
    split
    · simp [accumulate, toDigit_digitChar ‹n < 10›, h]
    · have hq : n / 10 ≤ bound := by omega
      rw [accumulate_append, ih (n / 10) (by omega) hq]
      simp only [bind, Except.bind, accumulate, toDigit_digitChar (Nat.mod_lt n (by norm_num))]
      have : n / 10 * 10 + n % 10 = n := by omega
      simp [this, h]

theorem fromStrRadix_decimal (signed : Bool) (lo hi n : Nat) (h : n ≤ hi) :
    fromStrRadix signed lo hi ⟨decimal n⟩ = .ok ⟨n, by omega, by exact_mod_cast h⟩ := by
  obtain ⟨c, cs, hd, hc⟩ := decimal_head n
  have hpos : fromStrRadix signed lo hi ⟨decimal n⟩ = fromStrRadix.positive lo hi (decimal n) := by
    unfold fromStrRadix
    rw [hd]
    split <;> simp_all [toDigit]
  rw [hpos, fromStrRadix.positive, accumulate_decimal hi _ n h]
  rfl

theorem fromStrRadix_neg_decimal (lo hi n : Nat) (h : n ≤ lo) :
    fromStrRadix true lo hi ⟨'-' :: decimal n⟩ = .ok ⟨-(n : Int), by omega, by omega⟩ := by
  obtain ⟨c, cs, hd, -⟩ := decimal_head n
  have hneg : fromStrRadix true lo hi ⟨'-' :: decimal n⟩ = fromStrRadix.negative lo hi (decimal n) := by
    unfold fromStrRadix
    simp [hd]
  rw [hneg, fromStrRadix.negative, accumulate_decimal lo _ n h]
  rfl

theorem Usize.fromStr_toString (n : Usize) : Usize.fromStr n.toString = .ok n := by
  have := n.lt
  simp only [Usize.fromStr, Usize.toString, fromStrRadix_decimal false 0 (2 ^ 64 - 1) n.val (by omega)]
  rfl

theorem I32.fromStr_toString (n : I32) : I32.fromStr n.toString = .ok n := by
  obtain ⟨v, h₁, h₂⟩ := n
  unfold I32.fromStr I32.toString
  dsimp only
  split
  · rw [fromStrRadix_neg_decimal _ _ v.natAbs (by omega)]
    simp only [Except.map, Except.ok.injEq, I32.mk.injEq]; omega
  · rw [fromStrRadix_decimal true _ _ v.toNat (by omega)]
    simp only [Except.map, Except.ok.injEq, I32.mk.injEq]; omega

theorem Usize.mul_val {a : Usize} {b : Nat} (h : a.val * b < 2 ^ 64) : (a.mul b).val = a.val * b :=
  Nat.mod_eq_of_lt h

/-! ## The config scalars -/

/-- `CacheCompressionLevel(pub i32)`. -/
structure CacheCompressionLevel where
  val : I32
  deriving DecidableEq

/-- `MaxArchiveRecursion(pub i32)`. -/
structure MaxArchiveRecursion where
  val : I32
  deriving DecidableEq

/-- `CachePath(pub String)`. -/
structure CachePath where
  val : String
  deriving DecidableEq

/-- `CacheMaxBlobLen(pub usize)`. -/
structure CacheMaxBlobLen where
  val : Usize
  deriving DecidableEq

def CacheCompressionLevel.default : CacheCompressionLevel := ⟨⟨12, by norm_num⟩⟩

def MaxArchiveRecursion.default : MaxArchiveRecursion := ⟨⟨5, by norm_num⟩⟩

/-- `CachePath::default()`: the cache directory `project_dirs()` gives, which the model takes as a
parameter. -/
def CachePath.default (cacheDir : String) : CachePath := ⟨cacheDir⟩

def CacheMaxBlobLen.default : CacheMaxBlobLen := ⟨⟨2000000, by norm_num⟩⟩

def CacheCompressionLevel.toString (x : CacheCompressionLevel) : String := x.val.toString

def MaxArchiveRecursion.toString (x : MaxArchiveRecursion) : String := x.val.toString

def CachePath.toString (x : CachePath) : String := x.val

def CacheMaxBlobLen.toString (x : CacheMaxBlobLen) : String := x.val.toString

/-- The `FromStr` `derive_more` derives for a newtype: the inner type's. -/
def CacheCompressionLevel.fromStr (s : String) : Except IntErrorKind CacheCompressionLevel :=
  (I32.fromStr s).map .mk

def MaxArchiveRecursion.fromStr (s : String) : Except IntErrorKind MaxArchiveRecursion :=
  (I32.fromStr s).map .mk

/-- `String::from_str` cannot fail. -/
def CachePath.fromStr (s : String) : Except Empty CachePath := .ok ⟨s⟩

/-- The errors `CacheMaxBlobLen::from_str` returns. -/
inductive BlobLenError where
  | parseInt (kind : IntErrorKind)
  | empty
  deriving DecidableEq

def BlobLenError.message : BlobLenError → String
  | .parseInt _ => "Could not parse int"
  | .empty => "empty byte input"

/-- The unit suffixes `CacheMaxBlobLen::from_str` knows, with their factors. -/
def suffixFactor : Char → Option Nat
  | 'k' => some 1000
  | 'M' => some 1000000
  | 'G' => some 1000000000
  | _ => none

/-- `s.trim_end_matches(c)`: `s` without every copy of `c` it ends with. -/
def trimEndMatches (s : String) (c : Char) : String :=
  ⟨(s.data.reverse.dropWhile (· == c)).reverse⟩

/-- `CacheMaxBlobLen::from_str`: on a unit suffix, the string with the suffix trimmed parsed as a
`usize` and multiplied by the unit's factor; otherwise the whole string parsed as a `usize`. -/
def CacheMaxBlobLen.fromStr (s : String) : Except BlobLenError CacheMaxBlobLen :=
  match s.data.getLast? with
  | none => .error .empty
  | some suffix =>
    match suffixFactor suffix with
    | some f => ((Usize.fromStr (trimEndMatches s suffix)).map fun e => ⟨e.mul f⟩).mapError .parseInt
    | none => ((Usize.fromStr s).map .mk).mapError .parseInt

theorem decimal_getLast (n : Nat) : (decimal n).getLast? = some (digitChar (n % 10)) := by
  rw [decimal]
  split
  · simp [Nat.mod_eq_of_lt ‹n < 10›]
  · simp

theorem suffixFactor_digitChar {d : Nat} (h : d < 10) : suffixFactor (digitChar d) = none := by
  interval_cases d <;> rfl

/-- Every scalar config value renders, with `Display`, to text its `FromStr` parses back to the same
value; a rendered `usize` ends in a digit, so the byte-size parser takes its plain branch. -/
theorem scalar_fromStr_toString :
    (∀ x : CacheMaxBlobLen, CacheMaxBlobLen.fromStr x.toString = .ok x) ∧
    (∀ x : CacheCompressionLevel, CacheCompressionLevel.fromStr x.toString = .ok x) ∧
    (∀ x : MaxArchiveRecursion, MaxArchiveRecursion.fromStr x.toString = .ok x) ∧
    (∀ x : CachePath, CachePath.fromStr x.toString = .ok x) := by
  refine ⟨fun ⟨n⟩ => ?_, fun ⟨n⟩ => ?_, fun ⟨n⟩ => ?_, fun _ => rfl⟩
  · have hlast : n.toString.data.getLast? = some (digitChar (n.val % 10)) := decimal_getLast _
    simp only [CacheMaxBlobLen.fromStr, CacheMaxBlobLen.toString, hlast,
      suffixFactor_digitChar (Nat.mod_lt n.val (by norm_num)), Usize.fromStr_toString]
    rfl
  · simp [CacheCompressionLevel.fromStr, CacheCompressionLevel.toString, I32.fromStr_toString,
      Except.map]
  · simp [MaxArchiveRecursion.fromStr, MaxArchiveRecursion.toString, I32.fromStr_toString, Except.map]

/-! ## Unit suffixes -/

/-- On a unit suffix the parser strips every trailing copy of it, parses the rest as a `usize` `n`
and returns `n * factor`, wrapped at `2^64`; below `2^64` the product is exact. -/
theorem CacheMaxBlobLen.fromStr_suffix {s : String} {c : Char} {f : Nat} {n : Usize}
    (hc : s.data.getLast? = some c) (hf : suffixFactor c = some f)
    (hn : Usize.fromStr (trimEndMatches s c) = .ok n) :
    CacheMaxBlobLen.fromStr s = .ok ⟨n.mul f⟩ ∧ (n.val * f < 2 ^ 64 → (n.mul f).val = n.val * f) := by
  refine ⟨?_, Usize.mul_val⟩
  simp only [CacheMaxBlobLen.fromStr, hc, hf, hn]
  rfl

/-- `20000000000G` is `2·10^19` bytes, above `usize::MAX`: the parser returns the product wrapped
around `2^64` instead of an error. -/
theorem blobLen_fromStr_wraps :
    CacheMaxBlobLen.fromStr "20000000000G" = .ok ⟨⟨1553255926290448384, by norm_num⟩⟩ :=
  rfl

/-- A doubled suffix is accepted: `trim_end_matches` strips both `k`s. -/
theorem blobLen_fromStr_doubled_suffix :
    CacheMaxBlobLen.fromStr "10kk" = .ok ⟨⟨10000, by norm_num⟩⟩ :=
  rfl

/-! ## The accepted language -/

/-- A mapped result is `ok` exactly where the result is, mapped. -/
theorem map_eq_ok {ε α β : Type} {x : Except ε α} {f : α → β} {b : β} :
    x.map f = .ok b ↔ ∃ a, x = .ok a ∧ f a = b := by
  cases x <;> simp [Except.map]

theorem mapError_eq_ok {ε ε' α : Type} {x : Except ε α} {g : ε → ε'} {a : α} :
    x.mapError g = .ok a ↔ x = .ok a := by
  cases x <;> simp [Except.mapError]

/-- `l` is a decimal text as `usize::from_str` reads it: an optional `+`, then the digits `ds`. -/
def DecimalText (l ds : List Char) : Prop :=
  (l = ds ∨ l = '+' :: ds) ∧ ds ≠ [] ∧ ∀ c ∈ ds, c.isDigit

/-- The number the decimal digits `ds` denote. -/
def digitsValue (ds : List Char) : Nat := ds.foldl (fun n c => n * 10 + (c.toNat - 48)) 0

theorem isDigit_iff (c : Char) : c.isDigit = true ↔ 48 ≤ c.toNat ∧ c.toNat < 58 := by
  simp only [Char.isDigit, Bool.and_eq_true, decide_eq_true_eq, ge_iff_le, UInt32.le_def, Char.toNat,
    BitVec.le_def, UInt32.toNat]
  simp
  omega

theorem toDigit_eq_some {c : Char} {d : Nat} : toDigit c = some d ↔ c.isDigit ∧ d = c.toNat - 48 := by
  rw [isDigit_iff, toDigit]
  split <;> simp_all [eq_comm]

theorem le_foldl_digits (ds : List Char) (a : Nat) :
    a ≤ ds.foldl (fun n c => n * 10 + (c.toNat - 48)) a := by
  induction ds generalizing a with
  | nil => exact le_rfl
  | cons c cs ih => exact le_trans (show a ≤ a * 10 + (c.toNat - 48) by omega) (ih _)

/-- The digit loop accepts exactly digits, and reads their value from the accumulator. -/
theorem accumulate_eq_ok (bound : Nat) (e : IntErrorKind) :
    ∀ (acc : {n // n ≤ bound}) (ds : List Char) (n : {n // n ≤ bound}),
      accumulate bound e acc ds = .ok n ↔
        (∀ c ∈ ds, c.isDigit) ∧ n.1 = ds.foldl (fun n c => n * 10 + (c.toNat - 48)) acc.1
  | acc, [], n => by
    simp only [accumulate, Except.ok.injEq, Subtype.ext_iff, List.foldl_nil, List.not_mem_nil,
      false_implies, implies_true, true_and]
    exact eq_comm
  | acc, c :: cs, n => by
    simp only [accumulate, List.mem_cons, forall_eq_or_imp, List.foldl_cons]
    cases hd : toDigit c with
    | none =>
      have : c.isDigit = false :=
        Bool.eq_false_iff.2 fun h => by cases hd.symm.trans (toDigit_eq_some.2 ⟨h, rfl⟩)
      simp [this]
    | some d =>
      obtain ⟨hc, rfl⟩ := toDigit_eq_some.1 hd
      dsimp only
      split
      · rw [accumulate_eq_ok bound e _ cs n]
        simp [hc]
      · rename_i h
        simp only [reduceCtorEq, false_iff, not_and]
        intro _ hn
        have := le_foldl_digits cs (acc.1 * 10 + (c.toNat - 48))
        have := n.2
        omega

theorem positive_eq_ok {lo hi : Nat} {ds : List Char} {i : {i : Int // -(lo : Int) ≤ i ∧ i ≤ hi}} :
    fromStrRadix.positive lo hi ds = .ok i ↔ (∀ c ∈ ds, c.isDigit) ∧ i.1 = digitsValue ds := by
  rw [fromStrRadix.positive, map_eq_ok]
  constructor
  · rintro ⟨n, ha, rfl⟩
    obtain ⟨hd, hn⟩ := (accumulate_eq_ok _ _ _ ds n).1 ha
    exact ⟨hd, congrArg Nat.cast hn⟩
  · rintro ⟨hd, hv⟩
    have hle : digitsValue ds ≤ hi := by have := i.2.2; omega
    exact ⟨⟨digitsValue ds, hle⟩, (accumulate_eq_ok _ _ _ ds _).2 ⟨hd, rfl⟩, Subtype.ext hv.symm⟩

theorem decimalText_plus {ds ds' : List Char} :
    DecimalText ('+' :: ds) ds' ↔ ds' = ds ∧ ds ≠ [] ∧ ∀ c ∈ ds, c.isDigit := by
  constructor
  · rintro ⟨h | h, hne, hd⟩
    · exact absurd (hd '+' (h ▸ List.mem_cons_self _ _)) (by decide)
    · cases h
      exact ⟨rfl, hne, hd⟩
  · rintro ⟨rfl, hne, hd⟩
    exact ⟨.inr rfl, hne, hd⟩

theorem decimalText_of_ne {c : Char} {ds ds' : List Char} (hc : c ≠ '+') :
    DecimalText (c :: ds) ds' ↔ ds' = c :: ds ∧ ∀ x ∈ c :: ds, x.isDigit := by
  constructor
  · rintro ⟨h | h, -, hd⟩
    · subst h
      exact ⟨rfl, hd⟩
    · cases h
      exact absurd rfl hc
  · rintro ⟨rfl, hd⟩
    exact ⟨.inl rfl, List.cons_ne_nil _ _, hd⟩

/-- `from_str_radix` for an unsigned type accepts exactly a decimal text whose value is in range, and
returns that value. -/
theorem fromStrRadix_unsigned_eq_ok {hi : Nat} {s : String}
    {i : {i : Int // -((0 : Nat) : Int) ≤ i ∧ i ≤ hi}} :
    fromStrRadix false 0 hi s = .ok i ↔ ∃ ds, DecimalText s.data ds ∧ i.1 = digitsValue ds := by
  unfold fromStrRadix
  split <;> rename_i h
  · simp only [h, reduceCtorEq, false_iff, not_exists, not_and]
    rintro ds ⟨h' | h', hne, -⟩ _
    · exact hne h'.symm
    · cases h'
  · simp only [h, reduceCtorEq, false_iff, not_exists, not_and, decimalText_plus]
    exact fun _ ⟨_, hne, _⟩ _ => hne rfl
  · simp only [h, reduceCtorEq, false_iff, not_exists, not_and, decimalText_of_ne (by decide : '-' ≠ '+')]
    exact fun _ ⟨_, hd⟩ _ => absurd (hd '-' (List.mem_cons_self _ _)) (by decide)
  · rename_i ds hne
    simp only [h, positive_eq_ok, decimalText_plus]
    constructor
    · rintro ⟨hd, hv⟩
      exact ⟨ds, ⟨rfl, hne, hd⟩, hv⟩
    · rintro ⟨_, ⟨rfl, -, hd⟩, hv⟩
      exact ⟨hd, hv⟩
  · simp only [h, Bool.false_eq_true, ↓reduceIte, positive_eq_ok,
      decimalText_of_ne (by decide : '-' ≠ '+')]
    exact ⟨fun ⟨hd, hv⟩ => ⟨_, ⟨rfl, hd⟩, hv⟩, fun ⟨_, ⟨rfl, hd⟩, hv⟩ => ⟨hd, hv⟩⟩
  · rename_i h₁ _ _ h₄
    obtain ⟨c, ds, hcd⟩ := List.exists_cons_of_ne_nil h₁
    have hc : c ≠ '+' := fun hc => h₄ ds (hc ▸ hcd)
    simp only [hcd, positive_eq_ok, decimalText_of_ne hc]
    exact ⟨fun ⟨hd, hv⟩ => ⟨_, ⟨rfl, hd⟩, hv⟩, fun ⟨_, ⟨rfl, hd⟩, hv⟩ => ⟨hd, hv⟩⟩

/-- `usize::from_str` accepts exactly a decimal text whose value fits in 64 bits, and returns that
value. -/
theorem Usize.fromStr_eq_ok {s : String} {n : Usize} :
    Usize.fromStr s = .ok n ↔ ∃ ds, DecimalText s.data ds ∧ n.val = digitsValue ds := by
  rw [Usize.fromStr, map_eq_ok]
  constructor
  · rintro ⟨i, hr, rfl⟩
    obtain ⟨ds, hds, hv⟩ := fromStrRadix_unsigned_eq_ok.1 hr
    exact ⟨ds, hds, by simp [hv]⟩
  · rintro ⟨ds, hds, hv⟩
    have hle : (digitsValue ds : Int) ≤ ((2 ^ 64 - 1 : Nat) : Int) := by have := n.lt; omega
    refine ⟨⟨digitsValue ds, by omega, hle⟩, fromStrRadix_unsigned_eq_ok.2 ⟨ds, hds, rfl⟩, ?_⟩
    obtain ⟨v, hlt⟩ := n
    dsimp only at hv
    subst hv
    simp

/-- A decimal text ends in a digit. -/
theorem DecimalText.getLast {l ds : List Char} (h : DecimalText l ds) :
    ∃ c, l.getLast? = some c ∧ c.isDigit := by
  obtain ⟨hl, hne, hd⟩ := h
  refine ⟨ds.getLast hne, ?_, hd _ (List.getLast_mem hne)⟩
  rcases hl with rfl | rfl
  · exact List.getLast?_eq_getLast _ hne
  · rw [List.getLast?_cons, List.getLast?_eq_getLast _ hne]
    rfl

theorem suffixFactor_of_isDigit {c : Char} (h : c.isDigit) : suffixFactor c = none := by
  unfold suffixFactor
  split <;> first | rfl | exact absurd h (by decide)

/-- A text ending in `u` is what `trim_end_matches(u)` leaves, then one or more copies of `u`. -/
theorem trimEndMatches_append {s : String} {u : Char} (h : s.data.getLast? = some u) :
    ∃ k, s.data = (trimEndMatches s u).data ++ List.replicate (k + 1) u := by
  obtain ⟨r, hr⟩ : ∃ r, s.data.reverse = u :: r :=
    ⟨_, List.eq_cons_of_mem_head? (by rw [List.head?_reverse, h]; rfl)⟩
  have hT : r.takeWhile (· == u) = List.replicate (r.takeWhile (· == u)).length u :=
    List.eq_replicate_iff.2 ⟨rfl, fun b hb => by simpa using List.mem_takeWhile_imp hb⟩
  have htrim : (trimEndMatches s u).data = (r.dropWhile (· == u)).reverse := by
    simp only [trimEndMatches, hr, @List.dropWhile_cons_of_pos _ (· == u) u r (beq_self_eq_true u)]
  refine ⟨(r.takeWhile (· == u)).length, ?_⟩
  conv_lhs => rw [← List.reverse_reverse s.data, hr, ← List.takeWhile_append_dropWhile (· == u) r, hT]
  rw [htrim, List.reverse_cons, List.reverse_append, List.reverse_replicate, List.append_assoc,
    ← List.replicate_succ']

/-- `trim_end_matches(u)` on a text followed by copies of `u` leaves the text, where it does not end
in `u`. -/
theorem trimEndMatches_replicate {t : List Char} {u c : Char} {k : Nat} (ht : t.getLast? = some c)
    (hc : c ≠ u) : trimEndMatches ⟨t ++ List.replicate (k + 1) u⟩ u = ⟨t⟩ := by
  obtain ⟨r, hr⟩ : ∃ r, t.reverse = c :: r :=
    ⟨_, List.eq_cons_of_mem_head? (by rw [List.head?_reverse, ht]; rfl)⟩
  simp only [trimEndMatches, List.reverse_append, List.reverse_replicate, List.dropWhile_append,
    List.dropWhile_replicate, beq_self_eq_true, ↓reduceIte, List.isEmpty_nil]
  rw [hr, @List.dropWhile_cons_of_neg _ (· == u) c r (by simpa using hc), ← hr,
    List.reverse_reverse]

/-- `CacheMaxBlobLen::from_str` accepts exactly a decimal text, alone or followed by one or more
copies of one unit letter. Alone it reads the number, which must fit a `usize`; with a unit it reads
the number in front, which must fit, times the unit's factor wrapped at `2^64`. -/
theorem CacheMaxBlobLen.fromStr_ok_iff {s : String} {n : CacheMaxBlobLen} :
    CacheMaxBlobLen.fromStr s = .ok n ↔
      (∃ ds, DecimalText s.data ds ∧ n.val.val = digitsValue ds) ∨
      ∃ t ds u f k, suffixFactor u = some f ∧ s.data = t ++ List.replicate (k + 1) u ∧
        DecimalText t ds ∧ digitsValue ds < 2 ^ 64 ∧ n.val.val = digitsValue ds * f % 2 ^ 64 := by
  unfold CacheMaxBlobLen.fromStr
  constructor
  · intro h
    cases hl : s.data.getLast? with
    | none => rw [hl] at h; cases h
    | some u =>
      simp only [hl] at h
      cases hf : suffixFactor u with
      | none =>
        obtain ⟨m, hu, rfl⟩ := map_eq_ok.1 (mapError_eq_ok.1 (by simpa only [hf] using h))
        exact .inl (Usize.fromStr_eq_ok.1 hu)
      | some f =>
        obtain ⟨m, hu, rfl⟩ := map_eq_ok.1 (mapError_eq_ok.1 (by simpa only [hf] using h))
        obtain ⟨ds, hds, hv⟩ := Usize.fromStr_eq_ok.1 hu
        obtain ⟨k, hk⟩ := trimEndMatches_append hl
        exact .inr ⟨_, ds, u, f, k, hf, hk, hds, hv ▸ m.lt, by rw [← hv]; rfl⟩
  · rintro (⟨ds, hds, hv⟩ | ⟨t, ds, u, f, k, hf, hs, hds, hlt, hv⟩)
    · obtain ⟨c, hc, hdc⟩ := hds.getLast
      simp only [hc, suffixFactor_of_isDigit hdc, Usize.fromStr_eq_ok.2 ⟨ds, hds, hv⟩]
      rfl
    · obtain ⟨c, hc, hdc⟩ := hds.getLast
      have hcu : c ≠ u := by
        rintro rfl
        rw [suffixFactor_of_isDigit hdc] at hf
        cases hf
      have hlast : s.data.getLast? = some u := by
        rw [hs, List.getLast?_append, List.replicate_succ', List.getLast?_append]
        rfl
      have htrim : trimEndMatches s u = ⟨t⟩ := by
        rw [show s = ⟨t ++ List.replicate (k + 1) u⟩ from String.ext hs]
        exact trimEndMatches_replicate hc hcu
      obtain ⟨⟨v, hvlt⟩⟩ := n
      dsimp only at hv
      subst hv
      simp only [hlast, hf, htrim, (@Usize.fromStr_eq_ok ⟨t⟩ ⟨digitsValue ds, hlt⟩).2 ⟨ds, hds, rfl⟩]
      rfl

theorem negative_eq_ok {lo hi : Nat} {ds : List Char} {i : {i : Int // -(lo : Int) ≤ i ∧ i ≤ hi}} :
    fromStrRadix.negative lo hi ds = .ok i ↔ (∀ c ∈ ds, c.isDigit) ∧ i.1 = -(digitsValue ds : Int) := by
  rw [fromStrRadix.negative, map_eq_ok]
  constructor
  · rintro ⟨n, ha, rfl⟩
    obtain ⟨hd, hn⟩ := (accumulate_eq_ok _ _ _ ds n).1 ha
    exact ⟨hd, congrArg (fun x : Nat => -(x : Int)) hn⟩
  · rintro ⟨hd, hv⟩
    have hle : digitsValue ds ≤ lo := by have := i.2.1; omega
    exact ⟨⟨digitsValue ds, hle⟩, (accumulate_eq_ok _ _ _ ds _).2 ⟨hd, rfl⟩, Subtype.ext hv.symm⟩

/-- `from_str_radix` for a signed type accepts exactly a decimal text, or `-` and digits, whose value
is in range, and returns that value. -/
theorem fromStrRadix_signed_eq_ok {lo hi : Nat} {s : String}
    {i : {i : Int // -(lo : Int) ≤ i ∧ i ≤ hi}} :
    fromStrRadix true lo hi s = .ok i ↔ ∃ ds, (DecimalText s.data ds ∧ i.1 = digitsValue ds) ∨
      (s.data = '-' :: ds ∧ ds ≠ [] ∧ (∀ c ∈ ds, c.isDigit) ∧ i.1 = -(digitsValue ds : Int)) := by
  have hminus : ∀ ds : List Char, ¬ ∀ x ∈ '-' :: ds, x.isDigit := fun _ h =>
    absurd (h '-' (List.mem_cons_self _ _)) (by decide)
  unfold fromStrRadix
  split <;> rename_i h
  · simp only [h, reduceCtorEq, false_iff, not_exists, not_or, not_and]
    refine fun ds => ⟨?_, nofun⟩
    rintro ⟨h' | h', hne, -⟩ -
    · exact hne h'.symm
    · cases h'
  · simp only [h, reduceCtorEq, false_iff, not_exists, not_or, not_and, decimalText_plus,
      List.cons.injEq]
    exact fun ds => ⟨fun ⟨_, hne, _⟩ _ => hne rfl, nofun⟩
  · simp only [h, reduceCtorEq, false_iff, not_exists, not_or, not_and,
      decimalText_of_ne (by decide : '-' ≠ '+'), List.cons.injEq, true_and]
    exact fun ds => ⟨fun ⟨_, hd⟩ _ => hminus [] hd, fun h' hne => absurd h'.symm hne⟩
  · rename_i ds hne
    simp only [h, positive_eq_ok, decimalText_plus, List.cons.injEq,
      show ('+' : Char) = '-' ↔ False by decide, false_and, or_false]
    constructor
    · rintro ⟨hd, hv⟩
      exact ⟨ds, ⟨rfl, hne, hd⟩, hv⟩
    · rintro ⟨_, ⟨rfl, -, hd⟩, hv⟩
      exact ⟨hd, hv⟩
  · rename_i ds hne
    simp only [h, ↓reduceIte, negative_eq_ok, decimalText_of_ne (by decide : '-' ≠ '+'),
      List.cons.injEq, true_and]
    constructor
    · rintro ⟨hd, hv⟩
      exact ⟨ds, .inr ⟨rfl, hne, hd, hv⟩⟩
    · rintro ⟨_, ⟨⟨-, hd⟩, -⟩ | ⟨rfl, -, hd, hv⟩⟩
      · exact absurd hd (hminus ds)
      · exact ⟨hd, hv⟩
  · rename_i h₁ _ _ h₄
    obtain ⟨c, ds, hcd⟩ := List.exists_cons_of_ne_nil h₁
    have hc : c ≠ '+' := fun hc => h₄ ds (hc ▸ hcd)
    have hc' : c ≠ '-' := fun hc => h ds (hc ▸ hcd)
    simp only [hcd, positive_eq_ok, decimalText_of_ne hc, List.cons.injEq, hc', false_and, or_false]
    exact ⟨fun ⟨hd, hv⟩ => ⟨_, ⟨rfl, hd⟩, hv⟩, fun ⟨_, ⟨rfl, hd⟩, hv⟩ => ⟨hd, hv⟩⟩

/-- `l` is the decimal text of the integer `v`: a decimal text of `v`, or `-` and the digits of
`-v`. -/
def IntText (l : List Char) (v : Int) : Prop :=
  ∃ ds, (DecimalText l ds ∧ v = digitsValue ds) ∨
    (l = '-' :: ds ∧ ds ≠ [] ∧ (∀ c ∈ ds, c.isDigit) ∧ v = -(digitsValue ds : Int))

/-- `i32::from_str` accepts exactly the decimal text of an `i32`, and returns that value. -/
theorem I32.fromStr_eq_ok {s : String} {n : I32} : I32.fromStr s = .ok n ↔ IntText s.data n.val := by
  rw [I32.fromStr, map_eq_ok]
  constructor
  · rintro ⟨i, hr, rfl⟩
    exact fromStrRadix_signed_eq_ok.1 hr
  · intro h
    obtain ⟨v, hlo, hhi⟩ := n
    have hi : -((2 ^ 31 : Nat) : Int) ≤ v ∧ v ≤ ((2 ^ 31 - 1 : Nat) : Int) := by omega
    exact ⟨⟨v, hi⟩, fromStrRadix_signed_eq_ok.2 h, rfl⟩

/-- `CacheCompressionLevel::from_str` and `MaxArchiveRecursion::from_str`, derived from `i32`'s,
accept exactly the decimal text of an `i32`: an optional `+` or `-`, then digits, whose value fits. -/
theorem i32Config_fromStr_ok_iff :
    (∀ s n, CacheCompressionLevel.fromStr s = .ok n ↔ IntText s.data n.val.val) ∧
    (∀ s n, MaxArchiveRecursion.fromStr s = .ok n ↔ IntText s.data n.val.val) := by
  have key : ∀ {β : Type} (mk : I32 → β) (val : β → I32), (∀ b, mk (val b) = b) →
      (∀ a, val (mk a) = a) → ∀ s b, (I32.fromStr s).map mk = .ok b ↔ IntText s.data (val b).val := by
    intro β mk val hmk hval s b
    rw [← I32.fromStr_eq_ok, map_eq_ok]
    exact ⟨fun ⟨a, ha, hb⟩ => by rw [ha, ← hb, hval], fun h => ⟨val b, h, hmk b⟩⟩
  exact ⟨key _ CacheCompressionLevel.val (fun _ => rfl) (fun _ => rfl),
    key _ MaxArchiveRecursion.val (fun _ => rfl) (fun _ => rfl)⟩

end RipgrepAll
