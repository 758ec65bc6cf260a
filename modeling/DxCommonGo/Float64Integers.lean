import Mathlib.Algebra.Order.Ring.Nat
import Mathlib.Data.Nat.Log

/-! Integers as 64-bit floating point numbers: the nearest one, ties to even, and the shortest
decimal that is read back. Up to 53 bits an integer is kept by both. -/

namespace DxCommonGo.Float64Integers

/-- The distance of the numbers with 53 significant bits at the magnitude of `n`. -/
def spacing (n : Nat) : Nat := 2 ^ (n.log2 - 52)

def nearest (n : Nat) : Nat :=
  let q := n / spacing n
  let r := n % spacing n
  if 2 * r < spacing n ∨ (2 * r = spacing n ∧ q % 2 = 0) then q * spacing n
  else (q + 1) * spacing n

/-- A multiple of `10 ^ p` that is read back as `f`, the closer one if there are two. -/
def decimalAt (f p : Nat) : Option Nat :=
  let low := f / 10 ^ p * 10 ^ p
  let high := low + 10 ^ p
  let lower := f - low < high - f ∨ (f - low = high - f ∧ f / 10 ^ p % 2 = 0)
  if nearest low = f ∧ (lower ∨ nearest high ≠ f) then some low
  else if nearest high = f then some high
  else none

def shortestFrom (f : Nat) : Nat → Nat
  | 0 => f
  | p + 1 => (decimalAt f (p + 1)).getD (shortestFrom f p)

def shortest (f : Nat) : Nat := shortestFrom f 19

example : nearest (2 ^ 53 + 3) = 2 ^ 53 + 4 := by decide +kernel
example : shortest (2 ^ 63) = 9223372036854776000 := by decide +kernel

theorem spacing_of_lt {n : Nat} (small : n < 2 ^ 53) : spacing n = 1 := by
  have bits : n.log2 < 53 := by
    rcases Nat.eq_zero_or_pos n with rfl | positive
    · decide
    · exact (Nat.log2_lt positive.ne').mpr small
  rw [spacing, Nat.sub_eq_zero_of_le (by omega)]
  rfl

theorem nearest_of_lt {n : Nat} (small : n < 2 ^ 53) : nearest n = n := by
  simp [nearest, spacing_of_lt small, Nat.mod_one]

theorem le_nearest {n : Nat} (large : 2 ^ 53 ≤ n) : 2 ^ 53 ≤ nearest n := by
  have positive : n ≠ 0 := by omega
  have bits : 53 ≤ n.log2 := (Nat.le_log2 positive).mpr large
  have power : 2 ^ 52 * spacing n = 2 ^ n.log2 := by
    rw [spacing, ← pow_add]
    congr 1
    omega
  have apart : 0 < spacing n := Nat.two_pow_pos _
  have quotient : 2 ^ 52 ≤ n / spacing n := by
    rw [Nat.le_div_iff_mul_le apart, power]
    exact Nat.log2_self_le positive
  have floor : 2 ^ 53 ≤ n / spacing n * spacing n :=
    calc 2 ^ 53 ≤ 2 ^ n.log2 := Nat.pow_le_pow_right (by omega) bits
      _ = 2 ^ 52 * spacing n := power.symm
      _ ≤ n / spacing n * spacing n := Nat.mul_le_mul_right _ quotient
  simp only [nearest]
  split
  · exact floor
  · exact floor.trans (Nat.mul_le_mul_right _ (Nat.le_succ _))

theorem eq_of_nearest_eq {m f : Nat} (small : f < 2 ^ 53) (read : nearest m = f) : m = f := by
  rcases Nat.lt_or_ge m (2 ^ 53) with less | large
  · rw [← read, nearest_of_lt less]
  · have := le_nearest large
    omega

theorem decimalAt_eq {f p m : Nat} (small : f < 2 ^ 53) (found : decimalAt f p = some m) :
    m = f := by
  simp only [decimalAt] at found
  split at found
  · next read =>
    cases found
    exact eq_of_nearest_eq small read.1
  · split at found
    · next read =>
      cases found
      exact eq_of_nearest_eq small read
    · cases found

theorem shortest_of_lt {f : Nat} (small : f < 2 ^ 53) : shortest f = f := by
  have exact : ∀ p, shortestFrom f p = f := by
    intro p
    induction p with
    | zero => rfl
    | succ p ih =>
      rw [shortestFrom]
      cases found : decimalAt f (p + 1) with
      | none => exact ih
      | some m => exact decimalAt_eq small found
  exact exact 19

def withSign (g : Nat → Nat) : Int → Int
  | .ofNat n => g n
  | .negSucc n => -(g (n + 1) : Int)

def float64 (v : Int) : Int := withSign nearest v

def decimalOf (f : Int) : Int := withSign shortest f

theorem decimalOf_float64 {v : Int} (small : v.natAbs < 2 ^ 53) : decimalOf (float64 v) = v := by
  cases v with
  | ofNat n =>
    have small : n < 2 ^ 53 := small
    rw [float64, withSign, nearest_of_lt small]
    exact congrArg Int.ofNat (shortest_of_lt small)
  | negSucc n =>
    have small : n + 1 < 2 ^ 53 := small
    rw [float64, withSign, nearest_of_lt small]
    exact congrArg (fun m : Nat => -(m : Int)) (shortest_of_lt small)

end DxCommonGo.Float64Integers
