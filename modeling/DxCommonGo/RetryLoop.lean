import DxCommonGo.Programs

/-! A retry loop over any environment: a program is run until it succeeds, its error is final, or
the attempts are used up. What is asked for in between are programs as well. -/

namespace DxCommonGo.RetryLoop
open Programs

structure Hooks (Op : Type) (Reply : Op → Type) (ε δ : Type) where
  retryable : ε → Bool
  ctxErr : Prog Op Reply (Option ε)
  backoff : Nat → Prog Op Reply δ
  onRetry : Nat → ε → δ → Prog Op Reply Unit
  sleep : δ → Prog Op Reply (Option ε)

variable {Op : Type} {Reply : Op → Type} {ε δ α ω : Type}

def attemptThen (hooks : Hooks Op Reply ε δ) (fn : Prog Op Reply (Except ε α))
    (failed : ε → Prog Op Reply (Except ε α)) : Prog Op Reply (Except ε α) := do
  match ← hooks.ctxErr with
  | some err => return .error err
  | none =>
    match ← fn with
    | .ok a => return .ok a
    | .error lastErr => failed lastErr

def loop (hooks : Hooks Op Reply ε δ) (fn : Prog Op Reply (Except ε α)) :
    Nat → Nat → Prog Op Reply (Except ε α)
  | 0, _ => attemptThen hooks fn fun lastErr => return .error lastErr
  | left + 1, attempt => attemptThen hooks fn fun lastErr => do
    if hooks.retryable lastErr = false then return .error lastErr
    let delay ← hooks.backoff (attempt + 1)
    hooks.onRetry attempt lastErr delay
    match ← hooks.sleep delay with
    | some err => return .error err
    | none => loop hooks fn left (attempt + 1)

variable {failed : ε → Prog Op Reply (Except ε α)}

section Performs

variable {hooks : Hooks Op Reply ε δ} {fn : Prog Op Reply (Except ε α)} {P : Op → Prop}
  (ctxErr : Performs P hooks.ctxErr) (tried : Performs P fn)

include ctxErr tried

theorem performs_attemptThen (after : ∀ err, Performs P (failed err)) :
    Performs P (attemptThen hooks fn failed) := by
  refine performs_bind ctxErr fun asked => ?_
  cases asked with
  | some err => trivial
  | none =>
    refine performs_bind tried fun answer => ?_
    cases answer with
    | ok a => trivial
    | error err => exact after err

theorem performs_loop (backoff : ∀ n, Performs P (hooks.backoff n))
    (onRetry : ∀ n err delay, Performs P (hooks.onRetry n err delay))
    (sleep : ∀ delay, Performs P (hooks.sleep delay)) (left attempt : Nat) :
    Performs P (loop hooks fn left attempt) := by
  induction left generalizing attempt with
  | zero => exact performs_attemptThen ctxErr tried fun _ => trivial
  | succ left ih =>
    refine performs_attemptThen ctxErr tried fun err => ?_
    split
    · trivial
    · refine performs_bind (backoff _) fun delay => ?_
      refine performs_bind (onRetry _ _ _) fun _ => ?_
      refine performs_bind (sleep delay) fun woken => ?_
      cases woken with
      | some err => trivial
      | none => exact ih (attempt + 1)

end Performs

section Returns

variable {hooks : Hooks Op Reply ε δ} {fn : Prog Op Reply (Except ε α)} {h : Handler Op Reply ω}
  {left attempt : Nat} {w w' : ω} {a : α}

section Steps

variable {u v x y z : ω} {err : ε} {delay : δ} {failed : ε → Prog Op Reply (Except ε α)}

theorem run_attempt_dead (asked : run h hooks.ctxErr w = (.returned (some err), u)) :
    run h (attemptThen hooks fn failed) w = (.returned (.error err), u) := by
  rw [attemptThen, run_bind, asked]
  rfl

theorem run_attempt_ok (asked : run h hooks.ctxErr w = (.returned none, u))
    (tried : run h fn u = (.returned (.ok a), v)) :
    run h (attemptThen hooks fn failed) w = (.returned (.ok a), v) := by
  rw [attemptThen, run_bind, asked]
  change run h (fn >>= _) u = _
  rw [run_bind, tried]
  rfl

theorem run_attempt_error (asked : run h hooks.ctxErr w = (.returned none, u))
    (tried : run h fn u = (.returned (.error err), v)) :
    run h (attemptThen hooks fn failed) w = run h (failed err) v := by
  rw [attemptThen, run_bind, asked]
  change run h (fn >>= _) u = _
  rw [run_bind, tried]
  rfl

theorem loop_eq_attemptThen (hooks : Hooks Op Reply ε δ) (fn : Prog Op Reply (Except ε α))
    (left attempt : Nat) : ∃ failed, loop hooks fn left attempt = attemptThen hooks fn failed := by
  cases left <;> exact ⟨_, rfl⟩

theorem run_loop_dead (asked : run h hooks.ctxErr w = (.returned (some err), u)) :
    run h (loop hooks fn left attempt) w = (.returned (.error err), u) := by
  obtain ⟨failed, same⟩ := loop_eq_attemptThen hooks fn left attempt
  rw [same, run_attempt_dead asked]

variable (asked : run h hooks.ctxErr w = (.returned none, u))

include asked

theorem run_loop_ok (tried : run h fn u = (.returned (.ok a), v)) :
    run h (loop hooks fn left attempt) w = (.returned (.ok a), v) := by
  obtain ⟨failed, same⟩ := loop_eq_attemptThen hooks fn left attempt
  rw [same, run_attempt_ok asked tried]

variable (tried : run h fn u = (.returned (.error err), v))

include tried

theorem run_loop_final (final : left = 0 ∨ hooks.retryable err = false) :
    run h (loop hooks fn left attempt) w = (.returned (.error err), v) := by
  cases left with
  | zero =>
    rw [loop, run_attempt_error asked tried]
    rfl
  | succ left =>
    rw [loop, run_attempt_error asked tried,
      if_pos (final.resolve_left (Nat.succ_ne_zero left))]
    rfl

theorem run_loop_slept (again : hooks.retryable err = true)
    (backed : run h (hooks.backoff (attempt + 1)) v = (.returned delay, x))
    (told : run h (hooks.onRetry attempt err delay) x = (.returned (), y)) {woken : Option ε}
    (slept : run h (hooks.sleep delay) y = (.returned woken, z)) :
    run h (loop hooks fn (left + 1) attempt) w =
      run h (woken.elim (loop hooks fn left (attempt + 1)) fun cut => pure (.error cut)) z := by
  rw [loop, run_attempt_error asked tried, if_neg (by simp [again]), run_bind, backed]
  change run h (hooks.onRetry attempt err delay >>= _) x = _
  rw [run_bind, told]
  change run h (hooks.sleep delay >>= _) y = _
  rw [run_bind, slept]
  cases woken <;> rfl

end Steps

theorem attempt_returned_ok
    (done : run h (attemptThen hooks fn failed) w = (.returned (.ok a), w')) :
    ∃ u, run h hooks.ctxErr w = (.returned none, u) ∧
      (run h fn u = (.returned (.ok a), w') ∨
        ∃ err v, run h fn u = (.returned (.error err), v) ∧
          run h (failed err) v = (.returned (.ok a), w')) := by
  obtain ⟨live, u, asked, done⟩ := run_bind_returned.mp done
  cases live with
  | some err => cases done
  | none =>
    refine ⟨u, asked, ?_⟩
    obtain ⟨result, v, tried, done⟩ := run_bind_returned.mp done
    cases result with
    | ok b =>
      cases done
      exact .inl tried
    | error err => exact .inr ⟨err, v, tried, done⟩

def Keeps {β : Type} (h : Handler Op Reply ω) (I : ω → Prop) (p : Prog Op Reply β) : Prop :=
  ∀ w b w', I w → run h p w = (.returned b, w') → I w'

structure Hooks.Keep (hooks : Hooks Op Reply ε δ) (h : Handler Op Reply ω) (I : ω → Prop) :
    Prop where
  ctxErr : Keeps h I hooks.ctxErr
  backoff : ∀ attempt, Keeps h I (hooks.backoff attempt)
  onRetry : ∀ attempt err delay, Keeps h I (hooks.onRetry attempt err delay)
  sleep : ∀ delay, Keeps h I (hooks.sleep delay)

/-- A loop that succeeds does so in an attempt that starts where the invariant holds, if failed
attempts and waits keep it. -/
theorem loop_ok {I : ω → Prop} (keep : hooks.Keep h I)
    (failed : ∀ w err w', I w → run h fn w = (.returned (.error err), w') → I w') (inv : I w)
    (done : run h (loop hooks fn left attempt) w = (.returned (.ok a), w')) :
    ∃ u, I u ∧ run h fn u = (.returned (.ok a), w') := by
  induction left generalizing attempt w with
  | zero =>
    obtain ⟨u, asked, tried | ⟨err, v, tried, done⟩⟩ := attempt_returned_ok done
    · exact ⟨u, keep.ctxErr _ _ _ inv asked, tried⟩
    · cases done
  | succ left ih =>
    obtain ⟨u, asked, last⟩ := attempt_returned_ok done
    have there : I u := keep.ctxErr _ _ _ inv asked
    obtain tried | ⟨err, v, tried, done⟩ := last
    · exact ⟨u, there, tried⟩
    · have lost : I v := failed _ _ _ there tried
      split at done
      · cases done
      · obtain ⟨delay, x, backed, done⟩ := run_bind_returned.mp done
        obtain ⟨_, y, told, done⟩ := run_bind_returned.mp done
        obtain ⟨woken, z, slept, done⟩ := run_bind_returned.mp done
        have waited : I z := keep.sleep _ _ _ _ (keep.onRetry _ _ _ _ _ _
          (keep.backoff _ _ _ _ lost backed) told) slept
        cases woken with
        | some cut => cases done
        | none => exact ih waited done

end Returns

end DxCommonGo.RetryLoop
