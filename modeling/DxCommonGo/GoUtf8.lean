import DxCommonGo.GoStrings

/-! UTF-8 as Go reads it, and the strings that `encoding/json` writes. A byte at which no character
starts is written as the replacement character. -/

namespace DxCommonGo.GoUtf8
open GoStrings

def within (lo hi b : UInt8) : Bool := lo ≤ b && b ≤ hi

/-- The first byte of a character tells how many follow it, and what the next one may be. -/
def first (b : UInt8) : Option (Nat × UInt8 × UInt8) :=
  if b < 0x80 then some (0, 0x80, 0xbf)
  else if within 0xc2 0xdf b then some (1, 0x80, 0xbf)
  else if b = 0xe0 then some (2, 0xa0, 0xbf)
  else if b = 0xed then some (2, 0x80, 0x9f)
  else if within 0xe1 0xef b then some (2, 0x80, 0xbf)
  else if b = 0xf0 then some (3, 0x90, 0xbf)
  else if b = 0xf4 then some (3, 0x80, 0x8f)
  else if within 0xf1 0xf3 b then some (3, 0x80, 0xbf)
  else none

def continues : Nat → UInt8 → UInt8 → GoString → Bool
  | 0, _, _, _ => true
  | _ + 1, _, _, [] => false
  | more + 1, lo, hi, b :: rest => within lo hi b && continues more 0x80 0xbf rest

def following (b : UInt8) (rest : GoString) : Option Nat :=
  match first b with
  | none => none
  | some (more, lo, hi) => if continues more lo hi rest then some more else none

def replacement : GoString := [0xef, 0xbf, 0xbd]

def coerceFrom : Nat → GoString → GoString
  | _, [] => []
  | more + 1, b :: rest => b :: coerceFrom more rest
  | 0, b :: rest =>
    match following b rest with
    | some more => b :: coerceFrom more rest
    | none => replacement ++ coerceFrom 0 rest

def coerce (s : GoString) : GoString := coerceFrom 0 s

def validFrom : Nat → GoString → Bool
  | _, [] => true
  | more + 1, _ :: rest => validFrom more rest
  | 0, b :: rest =>
    match following b rest with
    | some more => validFrom more rest
    | none => false

def validString (s : GoString) : Bool := validFrom 0 s

variable {more : Nat} {hi lo b : UInt8} {rest : GoString}

theorem coerceFrom_of_valid {s : GoString} (valid : validFrom more s = true) :
    coerceFrom more s = s := by
  fun_induction validFrom more s with
  | case1 more => simp [coerceFrom]
  | case2 more b rest ih => rw [coerceFrom, ih valid]
  | case3 b rest more found ih => simp only [coerceFrom, found, ih valid]
  | case4 => cases valid

theorem continues_coerceFrom (found : continues more lo hi rest = true) :
    continues more lo hi (coerceFrom more rest) = true := by
  induction more generalizing lo hi rest with
  | zero => rfl
  | succ more ih =>
    cases rest with
    | nil => cases found
    | cons b rest =>
      rw [continues, Bool.and_eq_true] at found
      rw [coerceFrom, continues, found.1, ih found.2]
      rfl

theorem following_eq_some_iff :
    following b rest = some more ↔
      ∃ lo hi, first b = some (more, lo, hi) ∧ continues more lo hi rest = true := by
  unfold following
  cases lead : first b with
  | none => simp
  | some shape =>
    obtain ⟨more', lo, hi⟩ := shape
    refine ⟨?_, ?_⟩
    · intro found
      obtain ⟨inside, ⟨⟩⟩ := Option.ite_none_right_eq_some.mp found
      exact ⟨lo, hi, rfl, inside⟩
    · rintro ⟨_, _, ⟨⟩, inside⟩
      exact if_pos inside

theorem following_coerceFrom (found : following b rest = some more) :
    following b (coerceFrom more rest) = some more := by
  obtain ⟨lo, hi, lead, inside⟩ := following_eq_some_iff.mp found
  exact following_eq_some_iff.mpr ⟨lo, hi, lead, continues_coerceFrom inside⟩

theorem validFrom_coerceFrom (more : Nat) (s : GoString) :
    validFrom more (coerceFrom more s) = true := by
  fun_induction coerceFrom more s with
  | case1 more => simp [validFrom]
  | case2 more b rest ih => exact ih
  | case3 b rest more found ih =>
    rw [validFrom, following_coerceFrom found]
    exact ih
  | case4 b rest missing ih => exact ih

theorem validString_coerce (s : GoString) : validString (coerce s) = true :=
  validFrom_coerceFrom 0 s

theorem coerce_eq_self_iff {s : GoString} : coerce s = s ↔ validString s = true := by
  refine ⟨fun same => ?_, coerceFrom_of_valid⟩
  rw [← same]
  exact validString_coerce s

theorem coerce_coerce (s : GoString) : coerce (coerce s) = coerce s :=
  coerce_eq_self_iff.mpr (validString_coerce s)

section Ascii

variable {a : UInt8} (ascii : a < 0x80) (s t : GoString) {more : Nat}

theorem first_lo (lead : first b = some (more, lo, hi)) : 0x80 ≤ lo := by
  unfold first at lead
  split_ifs at lead <;> cases lead <;> decide

theorem length_le_coerceFrom (more : Nat) : s.length ≤ (coerceFrom more s).length := by
  fun_induction coerceFrom more s with
  | case1 => rfl
  | case2 more b rest ih => exact Nat.succ_le_succ ih
  | case3 b rest more found ih => exact Nat.succ_le_succ ih
  | case4 b rest missing ih =>
    rw [List.length_append, List.length_cons]
    exact (Nat.add_comm ..).trans_le (Nat.add_le_add (by decide) ih)

include ascii

theorem continues_append (high : 0x80 ≤ lo) :
    continues more lo hi (s ++ a :: t) = continues more lo hi s := by
  induction s generalizing more lo hi with
  | nil =>
    cases more with
    | zero => rfl
    | succ more =>
      have below : ¬lo ≤ a := UInt8.not_le.mpr (UInt8.lt_of_lt_of_le ascii high)
      simp [continues, within, below]
  | cons b s ih =>
    cases more with
    | zero => rfl
    | succ more => rw [List.cons_append, continues, continues, ih (by decide)]

theorem following_append (b : UInt8) : following b (s ++ a :: t) = following b s := by
  unfold following
  cases lead : first b with
  | none => rfl
  | some shape =>
    obtain ⟨more, lo, hi⟩ := shape
    simp only [continues_append ascii s t (first_lo lead)]

omit ascii in
theorem continues_length (found : continues more lo hi s = true) : more ≤ s.length := by
  induction s generalizing more lo hi with
  | nil =>
    cases more with
    | zero => rfl
    | succ more => cases found
  | cons b s ih =>
    cases more with
    | zero => exact Nat.zero_le _
    | succ more =>
      rw [continues, Bool.and_eq_true] at found
      exact Nat.succ_le_succ (ih found.2)

omit ascii in
theorem following_length (found : following b s = some more) : more ≤ s.length := by
  obtain ⟨lo, hi, -, inside⟩ := following_eq_some_iff.mp found
  exact continues_length s inside

theorem coerceFrom_append (short : more ≤ s.length) :
    coerceFrom more (s ++ a :: t) = coerceFrom more s ++ a :: coerce t := by
  induction s generalizing more with
  | nil =>
    cases Nat.le_zero.mp short
    have single : following a t = some 0 := by simp [following, first, ascii, continues]
    change coerceFrom 0 (a :: t) = a :: coerce t
    simp only [coerceFrom, single]
    rfl
  | cons b s ih =>
    cases more with
    | succ more =>
      rw [List.cons_append, coerceFrom, coerceFrom, ih (Nat.le_of_succ_le_succ short)]
      rfl
    | zero =>
      rw [List.cons_append, coerceFrom, coerceFrom, following_append ascii]
      cases found : following b s with
      | none =>
        dsimp only
        rw [ih (Nat.zero_le _), List.append_assoc]
      | some more =>
        dsimp only
        rw [ih (following_length s found)]
        rfl

omit s t in
theorem mem_of_mem_coerceFrom {s : GoString} (mem : a ∈ coerceFrom more s) : a ∈ s := by
  fun_induction coerceFrom more s with
  | case1 => exact mem
  | case2 more b rest ih =>
    obtain rfl | mem := List.mem_cons.mp mem
    · exact List.mem_cons_self
    · exact List.mem_cons_of_mem b (ih mem)
  | case3 b rest more found ih =>
    obtain rfl | mem := List.mem_cons.mp mem
    · exact List.mem_cons_self
    · exact List.mem_cons_of_mem b (ih mem)
  | case4 b rest missing ih =>
    obtain inside | mem := List.mem_append.mp mem
    · have high : ∀ c ∈ replacement, ¬c < 0x80 := by simp [replacement]
      exact absurd ascii (high a inside)
    · exact List.mem_cons_of_mem b (ih mem)

theorem coerce_append : coerce (s ++ a :: t) = coerce s ++ a :: coerce t :=
  coerceFrom_append ascii s t (Nat.zero_le _)

theorem validString_append :
    validString (s ++ a :: t) = true ↔ validString s = true ∧ validString t = true := by
  simp only [← coerce_eq_self_iff, coerce_append ascii]
  constructor
  · intro same
    have lengths := congrArg List.length same
    have first : s.length ≤ (coerce s).length := length_le_coerceFrom s 0
    have second : t.length ≤ (coerce t).length := length_le_coerceFrom t 0
    simp only [List.length_append, List.length_cons] at lengths
    obtain ⟨left, right⟩ := List.append_inj same (by omega)
    exact ⟨left, (List.cons.inj right).2⟩
  · rintro ⟨left, right⟩
    rw [left, right]

end Ascii

example : coerce (str "ünï€𝄞") = str "ünï€𝄞" := by decide
example : coerce [0x61, 0xed, 0xa0, 0x80] = 0x61 :: (replacement ++ replacement ++ replacement) :=
  by decide

end DxCommonGo.GoUtf8
