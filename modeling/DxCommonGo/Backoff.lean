import DxCommonGo.Retry
import Mathlib.Algebra.Order.Floor.Ring
import Mathlib.Data.Rat.Floor

/-! The delays of a retry policy, in exact arithmetic: the multiplier is in any ordered field with a
floor. A jitter source is called at most once for a delay, so it is a function. -/

namespace DxCommonGo.Backoff
open DxErrors Programs RetryLoop

structure Policy (K : Type) extends Retry.Policy where
  maxDelay : Int := 10 * 10 ^ 9
  multiplier : K
  jitter : Bool := true

variable {K : Type} [Field K] [LinearOrder K] [IsStrictOrderedRing K] [FloorRing K]

def defaultPolicy : Policy K := { multiplier := 2 }

def truncate (d : K) : Int := if 0 ≤ d then ⌊d⌋ else ⌈d⌉

namespace Policy

variable (p : Policy K)

def jitterOf (rng : Int → Int) (n : Int) : Int := if n ≤ 0 then 0 else rng n

def delay (attempt : Int) : Int :=
  let mult := if p.multiplier < 1 then 1 else p.multiplier
  let d := (p.baseDelay : K) * mult ^ (attempt - 2).toNat
  let d := if 0 < p.maxDelay ∧ (p.maxDelay : K) < d then (p.maxDelay : K) else d
  if truncate d < 0 then p.maxDelay else truncate d

def backoff (rng : Int → Int) (attempt : Int) : Int :=
  if attempt ≤ 1 then 0
  else if p.jitter && 0 < p.delay attempt then jitterOf rng (p.delay attempt)
  else p.delay attempt

end Policy

/-- What `Retry` calls; a reply to `rng` is what the jitter source answers if it is called. -/
inductive Op where
  | ctxErr
  | fn
  | rng
  | onRetry (attempt : Nat) (err : GoError) (delay : Int)
  | sleep (delay : Int)

abbrev Reply : Op → Type
  | .ctxErr => Option GoError
  | .fn => Except GoError Unit
  | .rng => Int → Int
  | .onRetry _ _ _ => Unit
  | .sleep _ => Option GoError

def hooks (p : Policy K) (retryable : GoError → Bool) : Hooks Op Reply GoError Int where
  retryable := retryable
  ctxErr := perform Op.ctxErr
  backoff attempt := do
    let rng ← perform Op.rng
    return p.backoff rng attempt
  onRetry attempt err delay := perform (Op.onRetry attempt err delay)
  sleep delay := perform (Op.sleep delay)

def retry (p : Policy K) (retryable : GoError → Bool) : Prog Op Reply (Except GoError Unit) :=
  loop (hooks p retryable) (perform Op.fn) (p.attempts - 1) 1

def Op.wait : Op → Int
  | .sleep delay => delay
  | _ => 0

def waited (ops : List Op) : Int := (ops.map Op.wait).sum

def Fair (rng : Int → Int) : Prop := ∀ n, 0 ≤ n → 0 ≤ rng n ∧ rng n ≤ n

section Delays

variable {p : Policy K} (base : 0 ≤ p.baseDelay) (cap : 0 < p.maxDelay)

include base cap

theorem delay_eq (k : Int) : p.delay k =
    min p.maxDelay ⌊(p.baseDelay : K) * max 1 p.multiplier ^ (k - 2).toNat⌋ := by
  have grown : 0 ≤ (p.baseDelay : K) * max 1 p.multiplier ^ (k - 2).toNat :=
    mul_nonneg (Int.cast_nonneg base) (pow_nonneg (zero_le_one.trans (le_max_left 1 _)) _)
  simp only [Policy.delay, cap, true_and, ← max_def_lt, ← min_def_lt, max_comm p.multiplier]
  generalize (p.baseDelay : K) * max 1 p.multiplier ^ (k - 2).toNat = d at grown
  have floored : truncate (min (p.maxDelay : K) d) = min p.maxDelay ⌊d⌋ := by
    rw [truncate, if_pos (le_min (Int.cast_nonneg cap.le) grown),
      (Int.floor_mono (R := K)).map_min, Int.floor_intCast]
  rw [floored, if_neg (not_lt.mpr (le_min cap.le (Int.floor_nonneg.mpr grown)))]

theorem delay_mem (k : Int) : 0 ≤ p.delay k ∧ p.delay k ≤ p.maxDelay := by
  rw [delay_eq base cap]
  refine ⟨le_min cap.le (Int.floor_nonneg.mpr ?_), min_le_left _ _⟩
  exact mul_nonneg (Int.cast_nonneg base) (pow_nonneg (zero_le_one.trans (le_max_left 1 _)) _)

theorem delay_mono {j k : Int} (le : j ≤ k) : p.delay j ≤ p.delay k := by
  rw [delay_eq base cap, delay_eq base cap]
  have grows : max 1 p.multiplier ^ (j - 2).toNat ≤ max 1 p.multiplier ^ (k - 2).toNat :=
    pow_le_pow_right₀ (le_max_left 1 _) (by omega)
  exact min_le_min_left _ (Int.floor_mono (mul_le_mul_of_nonneg_left grows (Int.cast_nonneg base)))

theorem backoff_mem {rng : Int → Int} (fair : Fair rng) (k : Int) :
    0 ≤ p.backoff rng k ∧ p.backoff rng k ≤ p.maxDelay ∧
      p.backoff rng k ≤ { p with jitter := false }.backoff rng k := by
  obtain ⟨nonneg, capped⟩ := delay_mem base cap k
  have same : { p with jitter := false }.delay k = p.delay k := rfl
  obtain ⟨low, high⟩ := fair (p.delay k) nonneg
  simp only [Policy.backoff, same, Policy.jitterOf]
  split_ifs <;> grind

theorem backoff_plain (plain : p.jitter = false) (rng : Int → Int) :
    (∀ j k, j ≤ k → p.backoff rng j ≤ p.backoff rng k) ∧
      ∀ k, 2 ≤ k → p.backoff rng k = p.delay k := by
  simp only [Policy.backoff, plain, Bool.false_and, Bool.false_eq_true, if_false]
  refine ⟨fun j k le => ?_, fun k later => if_neg (by omega)⟩
  split_ifs with first second
  · rfl
  · exact (delay_mem base cap k).1
  · omega
  · exact delay_mono base cap le

end Delays

section Waits

variable {ω : Type} {h : Handler Op Reply ω} {p : Policy K} {retryable : GoError → Bool}

theorem waited_call {α : Type} (op : Op) (f : Reply op → Prog Op Reply α) (w : ω) :
    waited (trace h (perform op >>= f) w) =
      op.wait + waited (trace h (f (h op w).1) (h op w).2) := List.sum_cons

omit [IsStrictOrderedRing K] in
theorem waited_attempt {failed : GoError → Prog Op Reply (Except GoError Unit)} {bound : Int}
    (nonneg : 0 ≤ bound) (after : ∀ err w, waited (trace h (failed err) w) ≤ bound) (w : ω) :
    waited (trace h (attemptThen (hooks p retryable) (perform Op.fn) failed) w) ≤ bound := by
  refine (waited_call Op.ctxErr _ w).trans_le ?_
  rw [show Op.ctxErr.wait = 0 from rfl, zero_add]
  cases (h .ctxErr w).1 with
  | some err => exact nonneg
  | none =>
    refine (waited_call Op.fn _ _).trans_le ?_
    rw [show Op.fn.wait = 0 from rfl, zero_add]
    cases (h .fn (h .ctxErr w).2).1 with
    | ok a => exact nonneg
    | error err => exact after err _

theorem waited_loop (base : 0 ≤ p.baseDelay) (cap : 0 < p.maxDelay)
    (fair : ∀ w, Fair (h .rng w).1) (left attempt : Nat) (w : ω) :
    waited (trace h (loop (hooks p retryable) (perform Op.fn) left attempt) w) ≤
      left * p.maxDelay := by
  induction left generalizing attempt w with
  | zero => exact waited_attempt (by simp) (fun err w => by simp [trace, waited, pure]) w
  | succ left ih =>
    have others : 0 ≤ (left : Int) * p.maxDelay := mul_nonneg (Int.natCast_nonneg left) cap.le
    rw [Int.natCast_succ, add_mul, one_mul]
    refine waited_attempt (by omega) (fun err w => ?_) w
    split_ifs
    · exact add_nonneg others cap.le
    · refine (waited_call Op.rng _ w).trans_le ?_
      obtain ⟨-, short, -⟩ := backoff_mem base cap (fair w) (attempt + 1 : Nat)
      have told := waited_call (h := h) (α := Except GoError Unit)
        (.onRetry attempt err (p.backoff (h .rng w).1 (attempt + 1 : Nat)))
      have slept := waited_call (h := h) (α := Except GoError Unit)
        (.sleep (p.backoff (h .rng w).1 (attempt + 1 : Nat)))
      refine (zero_add _).trans_le ((told _ _).trans_le ((zero_add _).trans_le ?_))
      refine (slept _ _).trans_le ?_
      rw [add_comm]
      refine add_le_add ?_ short
      split
      · exact others
      · exact ih _ _

end Waits

/-- A delay is within the cap of the policy, without jitter it grows to that cap, and the delays
of all attempts together are bounded. -/
theorem backoff_bounded (p : Policy K) (base : 0 ≤ p.baseDelay) (cap : 0 < p.maxDelay) :
    (∀ rng, Fair rng → p.backoff rng 1 = 0 ∧
      ∀ k, 0 ≤ p.backoff rng k ∧ p.backoff rng k ≤ p.maxDelay ∧
        p.backoff rng k ≤ { p with jitter := false }.backoff rng k) ∧
    (p.jitter = false → ∀ rng, (∀ j k, j ≤ k → p.backoff rng j ≤ p.backoff rng k) ∧
      ∀ k, 2 ≤ k → p.backoff rng k =
        min p.maxDelay ⌊(p.baseDelay : K) * max 1 p.multiplier ^ (k - 2).toNat⌋) ∧
    ∀ (ω : Type) (h : Handler Op Reply ω) (w : ω) (retryable : GoError → Bool),
      (∀ w, Fair (h .rng w).1) →
        waited (trace h (retry p retryable) w) ≤ (max 1 p.maxAttempts - 1) * p.maxDelay := by
  refine ⟨fun rng fair => ⟨rfl, backoff_mem base cap fair⟩, fun plain rng => ?_, ?_⟩
  · obtain ⟨grows, values⟩ := backoff_plain base cap plain rng
    exact ⟨grows, fun k later => (values k later).trans (delay_eq base cap k)⟩
  · intro ω h w retryable fair
    have left : ((p.attempts - 1 : Nat) : Int) = max 1 p.maxAttempts - 1 := by
      unfold Retry.Policy.attempts
      split_ifs <;> omega
    rw [← left]
    exact waited_loop base cap fair _ _ w

def failing : Handler Op Reply Unit
  | .ctxErr, _ => (none, ())
  | .fn, _ => (.error (errorsNew []), ())
  | .rng, _ => (id, ())
  | .onRetry _ _ _, _ => ((), ())
  | .sleep _, _ => (none, ())

theorem backoff_bounded_default :
    0 ≤ (defaultPolicy : Policy ℚ).baseDelay ∧ 0 < (defaultPolicy : Policy ℚ).maxDelay ∧
      waited (trace failing (retry (defaultPolicy : Policy ℚ) fun _ => true) ()) = 300000000 ∧
      waited (trace failing (retry (defaultPolicy : Policy ℚ) fun _ => true) ()) ≤
        (max 1 3 - 1) * 10000000000 :=
  ⟨by decide, by decide, by decide +kernel,
    (backoff_bounded defaultPolicy (by decide) (by decide)).2.2 Unit failing () _
      fun _ n nonneg => ⟨nonneg, le_rfl⟩⟩

end DxCommonGo.Backoff
