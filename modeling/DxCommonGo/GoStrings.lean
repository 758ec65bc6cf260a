import Mathlib.Data.Nat.Digits.Defs
import Mathlib.Data.List.Sort
import Mathlib.Tactic.IntervalCases

/-! Go strings as byte sequences, with the functions of packages `strings`, `strconv` and `hex` the
modelled code calls. The Unicode table behind `toLower` is a parameter, consulted only for text that
is not all ASCII. -/

namespace DxCommonGo.GoStrings

abbrev GoString := List UInt8

def str (s : String) : GoString := s.toList.flatMap String.utf8EncodeChar

def join {α : Type} (sep : List α) : List (List α) → List α
  | [] => []
  | [s] => s
  | s :: t :: rest => s ++ sep ++ join sep (t :: rest)

theorem join_cons_cons {α : Type} (sep s t : List α) (rest : List (List α)) :
    join sep (s :: t :: rest) = s ++ sep ++ join sep (t :: rest) := rfl

theorem join_map {α β : Type} (f : List α → List β)
    (happ : ∀ a b, f (a ++ b) = f a ++ f b) (hnil : f [] = [])
    (sep : List α) (ss : List (List α)) :
    f (join sep ss) = join (f sep) (ss.map f) := by
  induction ss with
  | nil => simpa [join] using hnil
  | cons s rest ih =>
    cases rest with
    | nil => rfl
    | cons t rest =>
      rw [join_cons_cons, happ, happ, ih]
      rfl

theorem not_mem_join {α : Type} {a : α} {sep : List α} {ss : List (List α)} (hsep : a ∉ sep)
    (h : ∀ s ∈ ss, a ∉ s) : a ∉ join sep ss := by
  induction ss with
  | nil => exact List.not_mem_nil
  | cons s rest ih =>
    rw [List.forall_mem_cons] at h
    cases rest with
    | nil => exact h.1
    | cons t rest =>
      rw [join_cons_cons, List.mem_append, List.mem_append, not_or, not_or]
      exact ⟨⟨h.1, hsep⟩, ih h.2⟩

def isDigit (b : UInt8) : Bool := 48 ≤ b && b ≤ 57

def itoaNat (n : Nat) : GoString :=
  if n = 0 then [48] else (Nat.digits 10 n).reverse.map fun d => UInt8.ofNat (48 + d)

def itoa : Int → GoString
  | .ofNat n => itoaNat n
  | .negSucc n => 45 :: itoaNat (n + 1)

def decimal (s : GoString) : Option Nat :=
  if s ≠ [] ∧ s.all isDigit then
    some (s.foldl (fun acc b => 10 * acc + (b.toNat - 48)) 0)
  else none

theorem isDigit_ofNat {d : Nat} (h : d < 10) : isDigit (UInt8.ofNat (48 + d)) = true := by
  interval_cases d <;> decide

theorem toNat_digit {d : Nat} (h : d < 10) : (UInt8.ofNat (48 + d)).toNat - 48 = d := by
  interval_cases d <;> decide

theorem itoaNat_digits (n : Nat) : (itoaNat n).all isDigit = true := by
  unfold itoaNat
  split_ifs with h
  · decide
  · simp only [List.all_map, List.all_reverse, List.all_eq_true]
    intro d hd
    exact isDigit_ofNat (Nat.digits_lt_base (by norm_num) hd)

theorem itoaNat_ne_nil (n : Nat) : itoaNat n ≠ [] := by
  unfold itoaNat
  split_ifs with h
  · simp
  · simpa using Nat.digits_ne_nil_iff_ne_zero.mpr h

private theorem foldl_digits (ds : List Nat) (h : ∀ d ∈ ds, d < 10) :
    (ds.reverse.map fun d => UInt8.ofNat (48 + d)).foldl
      (fun acc b => 10 * acc + (b.toNat - 48)) 0 = Nat.ofDigits 10 ds := by
  induction ds with
  | nil => rfl
  | cons d ds ih =>
    have hd := h d List.mem_cons_self
    have hs := ih fun e he => h e (List.mem_cons_of_mem _ he)
    rw [List.reverse_cons, List.map_append, List.foldl_append, hs]
    simp only [List.map_cons, List.map_nil, List.foldl_cons, List.foldl_nil, toNat_digit hd,
      Nat.ofDigits_cons]
    omega

theorem decimal_itoaNat (n : Nat) : decimal (itoaNat n) = some n := by
  rw [decimal, if_pos ⟨itoaNat_ne_nil n, itoaNat_digits n⟩]
  congr 1
  unfold itoaNat
  split_ifs with h
  · subst h
    rfl
  · rw [foldl_digits _ fun d hd => Nat.digits_lt_base (by norm_num) hd, Nat.ofDigits_digits]

theorem digits_of_decimal {s : GoString} {n : Nat} (h : decimal s = some n) :
    s ≠ [] ∧ s.all isDigit = true := by
  unfold decimal at h
  split_ifs at h with digits
  exact digits

private theorem foldl_digits_lt (s : GoString) (digits : s.all isDigit = true) (acc : Nat) :
    s.foldl (fun acc b => 10 * acc + (b.toNat - 48)) acc < (acc + 1) * 10 ^ s.length := by
  induction s generalizing acc with
  | nil => simp
  | cons b s ih =>
    rw [List.all_cons, Bool.and_eq_true] at digits
    have digit : b.toNat ≤ 57 := by
      have both := digits.1
      rw [isDigit, Bool.and_eq_true, decide_eq_true_eq, decide_eq_true_eq] at both
      exact UInt8.le_iff_toNat_le.mp both.2
    calc _ < (10 * acc + (b.toNat - 48) + 1) * 10 ^ s.length := ih digits.2 _
      _ ≤ ((acc + 1) * 10) * 10 ^ s.length := Nat.mul_le_mul_right _ (by omega)
      _ = (acc + 1) * 10 ^ (b :: s).length := by rw [List.length_cons, pow_succ]; ring

theorem decimal_lt {s : GoString} {n : Nat} (h : decimal s = some n) : n < 10 ^ s.length := by
  have digits := digits_of_decimal h
  rw [decimal, if_pos digits, Option.some.injEq] at h
  simpa [h] using foldl_digits_lt s digits.2 0

theorem decimal_zero {s : GoString} {n : Nat} (h : decimal s = some n) :
    decimal (48 :: s) = some n := by
  have digits := digits_of_decimal h
  rw [decimal, if_pos digits] at h
  rw [decimal, if_pos ⟨List.cons_ne_nil _ _, by rw [List.all_cons, digits.2]; rfl⟩]
  exact h

def atoi (s : GoString) : Option Int :=
  let value : Option Int := match s with
    | 43 :: ds => (decimal ds).map Int.ofNat
    | 45 :: ds => (decimal ds).map fun n => -Int.ofNat n
    | ds => (decimal ds).map Int.ofNat
  value.filter fun n => -2 ^ 63 ≤ n && n < 2 ^ 63

theorem itoaNat_head (n : Nat) : ∃ b rest, itoaNat n = b :: rest ∧ isDigit b = true := by
  obtain ⟨b, rest, hs⟩ := List.exists_cons_of_ne_nil (itoaNat_ne_nil n)
  refine ⟨b, rest, hs, ?_⟩
  have digits := itoaNat_digits n
  rw [hs, List.all_cons, Bool.and_eq_true] at digits
  exact digits.1

theorem atoi_of_decimal {s : GoString} {n : Nat} (value : decimal s = some n) (fits : n < 2 ^ 63) :
    atoi s = some (n : Int) := by
  obtain ⟨b, rest, rfl⟩ := List.exists_cons_of_ne_nil (digits_of_decimal value).1
  have digit : isDigit b = true := by
    have digits := (digits_of_decimal value).2
    rw [List.all_cons, Bool.and_eq_true] at digits
    exact digits.1
  unfold atoi
  split
  · rename_i same
    cases same
    cases digit
  · rename_i same
    cases same
    cases digit
  · rw [value, Option.map_some]
    refine Option.filter_eq_some_iff.mpr ⟨rfl, ?_⟩
    simp only [Bool.and_eq_true, decide_eq_true_eq]
    omega

theorem atoi_itoa {n : Int} (lower : -2 ^ 63 ≤ n) (upper : n < 2 ^ 63) :
    atoi (itoa n) = some n := by
  have inRange : (-2 ^ 63 ≤ n && n < 2 ^ 63) = true := by
    rw [Bool.and_eq_true, decide_eq_true_eq, decide_eq_true_eq]
    exact ⟨lower, upper⟩
  cases n with
  | ofNat n => exact atoi_of_decimal (decimal_itoaNat n) (by simpa using upper)
  | negSucc n =>
    simp only [itoa, atoi, decimal_itoaNat, Option.map_some]
    exact Option.filter_eq_some_iff.mpr ⟨rfl, inRange⟩

theorem atoi_range {s : GoString} {n : Int} (h : atoi s = some n) : -2 ^ 63 ≤ n ∧ n < 2 ^ 63 := by
  have inRange := (Option.filter_eq_some_iff.mp h).2
  rw [Bool.and_eq_true, decide_eq_true_eq, decide_eq_true_eq] at inRange
  exact inRange

def cut (sep : UInt8) : GoString → Option (GoString × GoString)
  | [] => none
  | b :: bs =>
    if b = sep then some ([], bs) else (cut sep bs).map fun p => (b :: p.1, p.2)

variable {sep : UInt8} {ss : List GoString}

theorem cut_eq_some {s before after : GoString} (h : cut sep s = some (before, after)) :
    sep ∉ before := by
  induction s generalizing before after with
  | nil => cases h
  | cons b s ih =>
    rw [cut] at h
    split_ifs at h with first
    · cases h
      exact List.not_mem_nil
    · obtain ⟨p, hp, same⟩ := Option.map_eq_some_iff.mp h
      cases same
      simp only [List.mem_cons, not_or]
      exact ⟨fun same => first same.symm, ih hp⟩

theorem cut_append {before : GoString} (h : sep ∉ before) (after : GoString) :
    cut sep (before ++ sep :: after) = some (before, after) := by
  induction before with
  | nil => simp [cut]
  | cons b before ih =>
    simp only [List.mem_cons, not_or] at h
    simp [cut, Ne.symm h.1, ih h.2]

def split (s : GoString) (sep : UInt8) : List GoString := s.splitOn sep

theorem join_eq_intercalate {α : Type} (sep : List α) (ss : List (List α)) :
    join sep ss = sep.intercalate ss := by
  induction ss with
  | nil => rfl
  | cons s rest ih =>
    cases rest with
    | nil => simp [join, List.intercalate]
    | cons t rest =>
      rw [join_cons_cons, ih]
      simp [List.intercalate]

theorem split_join (nonempty : ss ≠ []) (h : ∀ s ∈ ss, sep ∉ s) :
    split (join [sep] ss) sep = ss := by
  rw [split, join_eq_intercalate]
  exact List.splitOn_intercalate sep h nonempty

theorem split_append_cons (sep : UInt8) (s t : GoString) :
    split (s ++ sep :: t) sep = split s sep ++ split t sep :=
  List.splitOnP_append_cons s t (beq_self_eq_true sep)

theorem mem_split_join (nonempty : ss ≠ []) {part : GoString} :
    part ∈ split (join [sep] ss) sep ↔ ∃ s ∈ ss, part ∈ split s sep := by
  induction ss with
  | nil => exact absurd rfl nonempty
  | cons s rest ih =>
    cases rest with
    | nil => simp [join]
    | cons t rest =>
      rw [join_cons_cons, List.append_assoc, List.singleton_append, split_append_cons,
        List.mem_append, ih (List.cons_ne_nil t rest)]
      simp

theorem not_mem_of_mem_split {s part : GoString} (h : part ∈ split s sep) : sep ∉ part := by
  induction s generalizing part with
  | nil =>
    rw [split, List.splitOn_nil, List.mem_singleton] at h
    rw [h]
    exact List.not_mem_nil
  | cons b s ih =>
    rw [split, List.splitOn, List.splitOnP_cons_eq_if_modifyHead] at h
    obtain ⟨first, rest, parts⟩ := List.exists_cons_of_ne_nil (List.splitOnP_ne_nil (· == sep) s)
    have later : ∀ t ∈ first :: rest, sep ∉ t := fun t ht => by
      refine ih ?_
      rw [split, List.splitOn, parts]
      exact ht
    rw [parts] at h
    split_ifs at h with cuts
    · rcases List.mem_cons.mp h with rfl | h
      · exact List.not_mem_nil
      · exact later part h
    · rcases List.mem_cons.mp h with rfl | h
      · rw [List.mem_cons, not_or]
        exact ⟨fun same => cuts (by simp [same]), later first List.mem_cons_self⟩
      · exact later part (List.mem_cons_of_mem _ h)

theorem count_join {α : Type} [DecidableEq α] (sep : α) (s : List α) (rest : List (List α)) :
    (join [sep] (s :: rest)).count sep =
      ((s :: rest).map (List.count sep)).sum + rest.length := by
  induction rest generalizing s with
  | nil => simp [join]
  | cons t rest ih =>
    rw [join_cons_cons, List.count_append, List.count_append, ih]
    simp only [List.count_singleton_self, List.map_cons, List.sum_cons, List.length_cons]
    omega

theorem join_injective {xs ys : List GoString} (length : xs.length = ys.length)
    (h : ∀ y ∈ ys, sep ∉ y) (same : join [sep] xs = join [sep] ys) : xs = ys := by
  cases ys with
  | nil => exact List.length_eq_zero_iff.mp length
  | cons y ys =>
    cases xs with
    | nil => simp at length
    | cons x xs =>
      have none : ((y :: ys).map (List.count sep)).sum = 0 := by
        rw [List.sum_eq_zero_iff_forall_eq_nat, List.forall_mem_map]
        exact fun s hs => List.count_eq_zero.mpr (h s hs)
      have counts := congrArg (List.count sep) same
      rw [count_join, count_join, none] at counts
      simp only [List.length_cons] at length
      have zero : ((x :: xs).map (List.count sep)).sum = 0 := by omega
      rw [List.sum_eq_zero_iff_forall_eq_nat, List.forall_mem_map] at zero
      have free : ∀ s ∈ x :: xs, sep ∉ s := fun s hs => List.count_eq_zero.mp (zero s hs)
      rw [← split_join (List.cons_ne_nil x xs) free, same, split_join (List.cons_ne_nil y ys) h]

def splitN2 (s : GoString) (sep : UInt8) : List GoString :=
  match cut sep s with
  | none => [s]
  | some (before, after) => [before, after]

/-- UTF-8 encodings of the runes `unicode.IsSpace` accepts. -/
def spaces : List GoString :=
  [[0x09], [0x0A], [0x0B], [0x0C], [0x0D], [0x20], [0xC2, 0x85], [0xC2, 0xA0],
    [0xE1, 0x9A, 0x80]] ++
  ((List.range 11).map fun k => [0xE2, 0x80, UInt8.ofNat (0x80 + k)]) ++
  [[0xE2, 0x80, 0xA8], [0xE2, 0x80, 0xA9], [0xE2, 0x80, 0xAF], [0xE2, 0x81, 0x9F],
    [0xE3, 0x80, 0x80]]

def dropAny (codes : List GoString) : Nat → GoString → GoString
  | 0, s => s
  | n + 1, s =>
    match codes.find? (fun code => code.isPrefixOf s) with
    | none => s
    | some code => dropAny codes n (s.drop code.length)

def trimLeft (s : GoString) : GoString := dropAny spaces s.length s

def trimRight (s : GoString) : GoString :=
  (dropAny (spaces.map List.reverse) s.length s.reverse).reverse

/-- UTF-8 is self-synchronising, so matching whole encodings at both ends decodes the same runes as
the library does. -/
def trimSpace (s : GoString) : GoString := trimRight (trimLeft s)

def lowerByte (b : UInt8) : UInt8 := if 65 ≤ b && b ≤ 90 then b + 32 else b

/-- `strings.ToLower`; `unicodeLower` is its behaviour on non-ASCII text. -/
def toLower (unicodeLower : GoString → GoString) (s : GoString) : GoString :=
  if s.all (· < 128) then s.map lowerByte else unicodeLower s

/-- Encodings of the runes that fold to an ASCII letter: both cases, the
Kelvin sign for `k` and the long s for `s`. -/
def foldOrbit (c : UInt8) : List GoString :=
  let l := lowerByte c
  [l] :: (if 97 ≤ l && l ≤ 122 then [[l - 32]] else []) ++
    (if l = 107 then [[0xE2, 0x84, 0xAA]] else []) ++
    (if l = 115 then [[0xC5, 0xBF]] else [])

/-- `strings.EqualFold(s, t)` for an ASCII `t`. -/
def equalFold (s : GoString) : GoString → Bool
  | [] => s.isEmpty
  | c :: t => (foldOrbit c).any fun code =>
      code.isPrefixOf s && equalFold (s.drop code.length) t

def sortStrings (ss : List GoString) : List GoString := ss.insertionSort (· ≤ ·)

theorem mem_sortStrings (ss : List GoString) (s : GoString) : s ∈ sortStrings ss ↔ s ∈ ss :=
  (List.perm_insertionSort _ ss).mem_iff

theorem sortStrings_eq_of_perm {ts : List GoString} (h : ss.Perm ts) :
    sortStrings ss = sortStrings ts :=
  ((List.perm_insertionSort _ ss).trans
    (h.trans (List.perm_insertionSort _ ts).symm)).eq_of_pairwise'
      (List.pairwise_insertionSort (· ≤ ·) ss) (List.pairwise_insertionSort (· ≤ ·) ts)

def hexDigit (n : Nat) : UInt8 := UInt8.ofNat (if n < 10 then 48 + n else 87 + n)

def hexEncode (bytes : List UInt8) : GoString :=
  bytes.flatMap fun b => [hexDigit (b.toNat / 16), hexDigit (b.toNat % 16)]

def hexValue (c : UInt8) : Option Nat :=
  if 48 ≤ c && c ≤ 57 then some (c.toNat - 48)
  else if 97 ≤ c && c ≤ 102 then some (c.toNat - 87)
  else if 65 ≤ c && c ≤ 70 then some (c.toNat - 55)
  else none

def hexDecode : GoString → Option (List UInt8)
  | [] => some []
  | [_] => none
  | hi :: lo :: rest => do
    let h ← hexValue hi
    let l ← hexValue lo
    let bytes ← hexDecode rest
    return UInt8.ofNat (16 * h + l) :: bytes

theorem hexValue_hexDigit {n : Nat} (h : n < 16) : hexValue (hexDigit n) = some n := by
  interval_cases n <;> decide

theorem hexDecode_hexEncode (bytes : List UInt8) : hexDecode (hexEncode bytes) = some bytes := by
  induction bytes with
  | nil => rfl
  | cons b bytes ih =>
    have small := b.toNat_lt
    have high : hexValue (hexDigit (b.toNat / 16)) = some (b.toNat / 16) :=
      hexValue_hexDigit (by omega)
    have low : hexValue (hexDigit (b.toNat % 16)) = some (b.toNat % 16) :=
      hexValue_hexDigit (by omega)
    have again : hexDecode (hexEncode bytes) = some bytes := ih
    rw [hexEncode] at again ⊢
    simp only [List.flatMap_cons, List.cons_append, List.nil_append, hexDecode, high, low, again]
    have whole : 16 * (b.toNat / 16) + b.toNat % 16 = b.toNat := by omega
    simp only [Option.bind_eq_bind, Option.bind_some, whole, UInt8.ofNat_toNat]
    rfl

example : trimSpace (str "  title\t") = str "title" := by decide
example : equalFold (str "DeſC") (str "desc") = true := by decide
example : atoi (str "-12") = some (-12) := by decide

end DxCommonGo.GoStrings
