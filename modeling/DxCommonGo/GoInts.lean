import Mathlib.Data.Int.ModEq
import Mathlib.Tactic.NormNum

/-! Signed 64-bit arithmetic: a result is the balanced remainder of the exact one. -/

namespace DxCommonGo.GoInts

theorem bmod_lt (n : Int) : n.bmod (2 ^ 64) < 2 ^ 63 := by
  have bound : n.bmod (2 ^ 64) < ((2 ^ 64 : Nat) + 1) / 2 := Int.bmod_lt (by norm_num)
  norm_num at bound ⊢
  exact bound

theorem bmod_eq_self_iff {n : Int} (nonneg : 0 ≤ n) : n.bmod (2 ^ 64) = n ↔ n < 2 ^ 63 := by
  constructor
  · intro same
    exact same ▸ bmod_lt n
  · intro small
    rw [Int.bmod_eq_of_le]
    · norm_num
      omega
    · norm_num
      omega

theorem le_max_bmod_iff {n other : Int} (fits : other < 2 ^ 63) (nonneg : 0 ≤ n) :
    n ≤ max other (n.bmod (2 ^ 64)) ↔ n < 2 ^ 63 := by
  constructor
  · intro le
    exact lt_of_le_of_lt le (max_lt fits (bmod_lt n))
  · intro small
    rw [(bmod_eq_self_iff nonneg).mpr small]
    exact le_max_right _ _

end DxCommonGo.GoInts
