import DxCommonGo.PgxPool
import DxCommonGo.RetryLoop

/-! The retry loop of package `resilience`. Delays are floating-point and random, so a delay is the
reply to `backoff`. -/

namespace DxCommonGo.Retry
open GoErrors DxErrors Programs PgxPool RetryLoop

structure Policy where
  maxAttempts : Int := 3
  baseDelay : Int := 100 * 10 ^ 6

def Policy.attempts (p : Policy) : Nat := if p.maxAttempts < 1 then 1 else p.maxAttempts.toNat

def defaultRetryable (err : GoError) : Bool :=
  !(errorsIs err (.sentinel .canceled) || errorsIs err (.sentinel .deadlineExceeded))

structure RetryConfig (T : Type) where
  retryable : GoError → Bool := defaultRetryable
  onRetry : Nat → GoError → Int → GoProg T Unit := fun _ _ _ => pure ()

variable {T : Type}

def retryFrom (policy : Policy) (cfg : RetryConfig T) (fn : GoProg T (Option GoError)) :
    Nat → Nat → Option GoError → GoProg T (Option GoError)
  | 0, _, lastErr => pure lastErr
  | left + 1, attempt, _ => do
    match ← ask .ctxErr with
    | some err => return some err
    | none =>
      match ← fn with
      | none => return none
      | some lastErr =>
        if left = 0 ∨ cfg.retryable lastErr = false then return some lastErr
        let delay ← ask (.backoff policy.baseDelay (attempt + 1))
        cfg.onRetry attempt lastErr delay
        match ← ask (.sleep delay) with
        | some err => return some err
        | none => retryFrom policy cfg fn left (attempt + 1) (some lastErr)

def retry (policy : Policy) (fn : GoProg T (Option GoError)) (cfg : RetryConfig T) :
    GoProg T (Option GoError) :=
  retryFrom policy cfg fn policy.attempts 1 none

theorem attempts_pos (p : Policy) : ∃ n, p.attempts = n + 1 := by
  unfold Policy.attempts
  split_ifs with h
  · exact ⟨0, rfl⟩
  · exact ⟨p.maxAttempts.toNat - 1, by omega⟩

def outcome : Option GoError → Except GoError Unit
  | none => .ok ()
  | some err => .error err

def hooks (policy : Policy) (cfg : RetryConfig T) : Hooks Op (Reply T) GoError Int where
  retryable := cfg.retryable
  ctxErr := ask .ctxErr
  backoff attempt := ask (.backoff policy.baseDelay attempt)
  onRetry := cfg.onRetry
  sleep delay := ask (.sleep delay)

def round (fn : GoProg T (Option GoError)) (failed : GoError → GoProg T (Option GoError)) :
    GoProg T (Option GoError) := do
  match ← ask .ctxErr with
  | some err => return some err
  | none =>
    match ← fn with
    | none => return none
    | some lastErr => failed lastErr

theorem round_eq_attemptThen (policy : Policy) (cfg : RetryConfig T)
    (fn : GoProg T (Option GoError)) {p : GoError → GoProg T (Option GoError)}
    {q : GoError → GoProg T (Except GoError Unit)}
    (h : ∀ err, (p err >>= fun result => pure (outcome result)) = q err) :
    (round fn p >>= fun result => pure (outcome result)) =
      attemptThen (hooks policy cfg) (fn >>= fun result => pure (outcome result)) q := by
  refine congrArg (Prog.call Op.ctxErr) (funext fun live => ?_)
  cases live with
  | some err => rfl
  | none =>
    change (fn >>= _) >>= _ = (fn >>= _) >>= _
    rw [Prog.bind_bind, Prog.bind_bind]
    refine congrArg (Prog.bind fn) (funext fun result => ?_)
    cases result with
    | none => rfl
    | some err => exact h err

/-- The loop here is the general one. -/
theorem retryFrom_eq_loop (policy : Policy) (cfg : RetryConfig T)
    (fn : GoProg T (Option GoError)) (left attempt : Nat) (lastErr : Option GoError) :
    (retryFrom policy cfg fn (left + 1) attempt lastErr >>= fun err => pure (outcome err)) =
      loop (hooks policy cfg) (fn >>= fun err => pure (outcome err)) left attempt := by
  induction left generalizing attempt lastErr with
  | zero => exact round_eq_attemptThen policy cfg fn fun err => rfl
  | succ left ih =>
    refine round_eq_attemptThen policy cfg fn fun err => ?_
    change (if left + 1 = 0 ∨ cfg.retryable err = false then _ else _) >>= _ =
      if cfg.retryable err = false then _ else _
    by_cases final : cfg.retryable err = false
    · rw [if_pos (.inr final), if_pos final]
      rfl
    · rw [if_neg (not_or.mpr ⟨Nat.succ_ne_zero left, final⟩), if_neg final, Prog.bind_bind]
      refine congrArg (Prog.call _) (funext fun delay => ?_)
      change (cfg.onRetry attempt err delay >>= _) >>= _ = cfg.onRetry attempt err delay >>= _
      rw [Prog.bind_bind]
      refine congrArg (Prog.bind _) (funext fun _ => ?_)
      refine congrArg (Prog.call _) (funext fun woken => ?_)
      cases woken with
      | some err => rfl
      | none => exact ih (attempt + 1) (some err)

end DxCommonGo.Retry
