import DxCommonGo.Retry
import Mathlib.Order.Bounds.Basic

/-! `Retry` of package `resilience` from its first look at the context to its return. Outcomes, the
end of the context and the delays are given in advance; the operations performed are the state. -/

namespace DxCommonGo.RetryRuns
open DxErrors Programs RetryLoop Retry

inductive Op where
  | ctxErr
  | call
  | backoff (attempt : Nat)
  | onRetry (attempt : Nat) (err : GoError) (delay : Int)
  | sleep (delay : Int)

abbrev Reply : Op → Type
  | .ctxErr => Option GoError
  | .call => Option GoError
  | .backoff _ => Int
  | .onRetry _ _ _ => Unit
  | .sleep _ => Option GoError

structure Config where
  retryable : GoError → Bool := defaultRetryable
  onRetry : Bool := false

def hooks (cfg : Config) : Hooks Op Reply GoError Int where
  retryable := cfg.retryable
  ctxErr := perform Op.ctxErr
  backoff attempt := perform (Op.backoff attempt)
  onRetry attempt err delay :=
    if cfg.onRetry then perform (Op.onRetry attempt err delay) else pure ()
  sleep delay := perform (Op.sleep delay)

def callFn : Prog Op Reply (Except GoError Unit) := do
  let err ← perform Op.call
  pure (outcome err)

def retry (policy : Policy) (cfg : Config) : Prog Op Reply (Except GoError Unit) :=
  loop (hooks cfg) callFn (policy.attempts - 1) 1

/-- The moment at which a context ends, if ever. The wait after call `i` is at the moment `2 * i`,
the look before call `i + 1` at the moment after it. -/
structure Context where
  err : GoError
  moment : Option Nat

def Context.done (ctx : Context) (now : Nat) : Bool := ctx.moment.any (· ≤ now)

def Context.errAt (ctx : Context) (now : Nat) : Option GoError :=
  if ctx.done now then some ctx.err else none

/-- `sleepCtx`: if the timer and the context are both ready, either of them is taken. -/
def sleepCtx (ctx : Context) (now : Nat) (timerFirst : Bool) (delay : Int) : Option GoError :=
  if delay ≤ 0 then ctx.errAt now else if timerFirst then none else ctx.errAt now

/-- The outcomes of the calls, what `Backoff` returns for each attempt, and which way each wait
falls. -/
structure Course where
  ctx : Context
  outcome : Nat → Option GoError
  delay : Nat → Int
  timerFirst : Nat → Bool

def Op.isCall : Op → Bool
  | .call => true
  | _ => false

def Op.isWait : Op → Bool
  | .onRetry _ _ _ | .sleep _ => true
  | _ => false

def calls (log : List Op) : Nat := log.countP Op.isCall

def waits (log : List Op) : List Op := log.filter Op.isWait

def Course.wait (c : Course) (i : Nat) : Option GoError :=
  sleepCtx c.ctx (2 * i) (c.timerFirst i) (c.delay (i + 1))

def Course.reply (c : Course) (log : List Op) : (op : Op) → Reply op
  | .ctxErr => c.ctx.errAt (2 * calls log + 1)
  | .call => c.outcome (calls log + 1)
  | .backoff attempt => c.delay attempt
  | .onRetry _ _ _ => ()
  | .sleep delay => sleepCtx c.ctx (2 * calls log) (c.timerFirst (calls log)) delay

def Course.handler (c : Course) : Handler Op Reply (List Op) := fun op log =>
  (c.reply log op, log ++ [op])

/-- Call `i` is the last one, whatever the context does: it succeeds or its error is not to be
retried, or no attempt is left. -/
def Final (policy : Policy) (cfg : Config) (c : Course) (i : Nat) : Prop :=
  0 < i ∧ ((c.outcome i).all (fun err => !cfg.retryable err) = true ∨ i = policy.attempts)

instance (policy : Policy) (cfg : Config) (c : Course) : DecidablePred (Final policy cfg c) :=
  fun _ => inferInstanceAs (Decidable (_ ∧ _))

def Stops (policy : Policy) (cfg : Config) (c : Course) (i : Nat) : Prop :=
  Final policy cfg c i ∨ c.ctx.done (2 * i + 1) = true

def result (policy : Policy) (cfg : Config) (c : Course) (k : Nat) : Option GoError :=
  if Final policy cfg c k then c.outcome k else some c.ctx.err

def waited (policy : Policy) (cfg : Config) (c : Course) (k : Nat) : Nat :=
  if Final policy cfg c k then k - 1 else k

def notice (cfg : Config) (c : Course) (i : Nat) : List Op :=
  let told := (c.outcome i).elim [] fun err => [Op.onRetry i err (c.delay (i + 1))]
  (if cfg.onRetry then told else []) ++ [.sleep (c.delay (i + 1))]

section Context

variable {ctx : Context} {now later : Nat} {err : GoError}

theorem Context.done_mono (le : now ≤ later) (done : ctx.done now = true) :
    ctx.done later = true := by
  unfold Context.done at *
  cases moment : ctx.moment with
  | none =>
    rw [moment] at done
    cases done
  | some m =>
    simp only [moment, Option.any_some, decide_eq_true_eq] at done ⊢
    omega

theorem Context.errAt_eq_some : ctx.errAt now = some err ↔ ctx.done now = true ∧ ctx.err = err := by
  unfold Context.errAt
  split_ifs with done <;> simp [done]

theorem Context.errAt_eq_none : ctx.errAt now = none ↔ ctx.done now = false := by
  unfold Context.errAt
  split_ifs with done <;> simp [done]

theorem sleepCtx_eq_some {timerFirst : Bool} {delay : Int}
    (cut : sleepCtx ctx now timerFirst delay = some err) :
    ctx.done now = true ∧ ctx.err = err := by
  unfold sleepCtx at cut
  split_ifs at cut
  · exact Context.errAt_eq_some.mp cut
  · exact Context.errAt_eq_some.mp cut

end Context

section Loop

variable {policy : Policy} {cfg : Config} {c : Course} {a left : Nat} {log : List Op}
  {err : GoError}

theorem calls_append (log log' : List Op) : calls (log ++ log') = calls log + calls log' :=
  List.countP_append

theorem waits_append (log log' : List Op) : waits (log ++ log') = waits log ++ waits log' :=
  List.filter_append ..

theorem calls_notice (i : Nat) : calls (notice cfg c i) = 0 := by
  unfold notice
  cases cfg.onRetry <;> cases c.outcome i <;> rfl

theorem waits_notice (i : Nat) : waits (notice cfg c i) = notice cfg c i := by
  unfold notice
  cases cfg.onRetry <;> cases c.outcome i <;> rfl

theorem run_ctxErr (made : calls log = a) :
    run c.handler (hooks cfg).ctxErr log =
      (.returned (c.ctx.errAt (2 * a + 1)), log ++ [.ctxErr]) := by
  subst made
  rfl

theorem run_callFn (made : calls log = a) :
    run c.handler callFn (log ++ [.ctxErr]) =
      (.returned (outcome (c.outcome (a + 1))), log ++ [.ctxErr] ++ [.call]) := by
  have same : calls (log ++ [.ctxErr]) = a := (calls_append ..).trans made
  rw [← same]
  rfl

theorem run_sleep (made : calls log = a + 1) :
    run c.handler ((hooks cfg).sleep (c.delay (a + 2))) log =
      (.returned (c.wait (a + 1)), log ++ [.sleep (c.delay (a + 2))]) := by
  have asked : run c.handler ((hooks cfg).sleep (c.delay (a + 2))) log =
      (.returned (sleepCtx c.ctx (2 * calls log) (c.timerFirst (calls log)) (c.delay (a + 2))),
        log ++ [.sleep (c.delay (a + 2))]) := rfl
  rw [asked, made]
  rfl

theorem run_onRetry (failed : c.outcome (a + 1) = some err) :
    ∃ told, run c.handler ((hooks cfg).onRetry (a + 1) err (c.delay (a + 2))) log =
        (.returned (), log ++ told) ∧
      told ++ [.sleep (c.delay (a + 2))] = notice cfg c (a + 1) := by
  unfold notice
  rw [failed, hooks]
  cases cfg.onRetry with
  | false => exact ⟨[], by rw [List.append_nil]; rfl, rfl⟩
  | true => exact ⟨_, rfl, rfl⟩

/-- With `a` calls made, the rest of the run makes calls up to the first number of them at
which it stops. -/
structure Ends (policy : Policy) (cfg : Config) (c : Course) (a : Nat) (log : List Op)
    (ran : Ending (Except GoError Unit) × List Op) (k : Nat) : Prop where
  le : a ≤ k
  stops : Stops policy cfg c k
  first : ∀ i, a ≤ i → i < k → ¬Stops policy cfg c i
  returned : ran.1 = .returned (outcome (result policy cfg c k))
  calls : calls ran.2 = k
  waits : waits ran.2 =
    waits log ++ (List.range' (a + 1) (waited policy cfg c k - a)).flatMap (notice cfg c)

theorem not_stops (goes : ¬Final policy cfg c a) (live : c.ctx.done (2 * a + 1) = false) :
    ¬Stops policy cfg c a := by
  rintro (final | dead)
  · exact goes final
  · rw [live] at dead
    cases dead

theorem run_live (made : calls log = a) (live : c.ctx.done (2 * a + 1) = false) :
    run c.handler (hooks cfg).ctxErr log = (.returned none, log ++ [.ctxErr]) := by
  rw [run_ctxErr made, Context.errAt_eq_none.mpr live]

theorem ends_dead (made : calls log = a) (goes : ¬Final policy cfg c a)
    (dead : c.ctx.done (2 * a + 1) = true) :
    Ends policy cfg c a log (run c.handler (loop (hooks cfg) callFn left (a + 1)) log) a := by
  have asked : run c.handler (hooks cfg).ctxErr log =
      (.returned (some c.ctx.err), log ++ [.ctxErr]) := by
    rw [run_ctxErr made, Context.errAt_eq_some.mpr ⟨dead, rfl⟩]
  rw [run_loop_dead asked]
  refine ⟨le_rfl, .inr dead, fun i le lt => absurd le (by omega), ?_, ?_, ?_⟩
  · rw [result, if_neg goes]
    rfl
  · exact (calls_append ..).trans made
  · rw [waited, if_neg goes, Nat.sub_self]
    exact waits_append ..

theorem run_again (made : calls log = a) (live : c.ctx.done (2 * a + 1) = false)
    (final : ¬Final policy cfg c (a + 1)) :
    ∃ log', calls log' = a + 1 ∧ waits log' = waits log ++ notice cfg c (a + 1) ∧
      run c.handler (loop (hooks cfg) callFn (left + 1) (a + 1)) log =
        run c.handler ((c.wait (a + 1)).elim (loop (hooks cfg) callFn left (a + 2))
          fun cut => pure (.error cut)) log' := by
  cases failed : c.outcome (a + 1) with
  | none => exact absurd ⟨Nat.succ_pos a, .inl (by rw [failed]; rfl)⟩ final
  | some err =>
    have again : cfg.retryable err = true := by
      by_contra stop
      exact final ⟨Nat.succ_pos a, .inl (by simpa [failed] using stop)⟩
    have called := run_callFn (c := c) made
    rw [failed] at called
    let asked := log ++ [.ctxErr] ++ [.call] ++ [.backoff (a + 2)]
    obtain ⟨told, hooked, noticed⟩ := @run_onRetry cfg c a asked err failed
    have count : calls (asked ++ told) = a + 1 := by
      have none := @calls_notice cfg c (a + 1)
      rw [← noticed, calls_append] at none
      simp only [asked, calls_append, made, Nat.eq_zero_of_add_eq_zero_right none]
      rfl
    have slept : run c.handler ((hooks cfg).sleep (c.delay (a + 2))) (asked ++ told) =
        (.returned (c.wait (a + 1)), asked ++ told ++ [.sleep (c.delay (a + 2))]) := run_sleep count
    refine ⟨_, ?_, ?_, run_loop_slept (run_live made live) called again rfl hooked slept⟩
    · rw [calls_append, count]
      rfl
    · rw [List.append_assoc, noticed]
      simp only [asked, waits_append, waits_notice]
      simp [waits, Op.isWait]

section Live

variable (made : calls log = a) (goes : ¬Final policy cfg c a)
  (live : c.ctx.done (2 * a + 1) = false)

include made goes live

theorem ends_final (cap : policy.attempts = a + 1 + left) (final : Final policy cfg c (a + 1)) :
    Ends policy cfg c a log (run c.handler (loop (hooks cfg) callFn left (a + 1)) log) (a + 1) := by
  have ran : run c.handler (loop (hooks cfg) callFn left (a + 1)) log =
      (.returned (outcome (c.outcome (a + 1))), log ++ [.ctxErr] ++ [.call]) := by
    have called := run_callFn (c := c) made
    cases ended : c.outcome (a + 1) with
    | none =>
      rw [ended] at called
      exact run_loop_ok (run_live made live) called
    | some err =>
      rw [ended] at called
      refine run_loop_final (run_live made live) called ?_
      obtain ⟨-, stop | last⟩ := final
      · rw [ended, Option.all_some, Bool.not_eq_true'] at stop
        exact .inr stop
      · exact .inl (by omega)
  rw [ran]
  refine ⟨by omega, .inl final, fun i le lt => ?_, ?_, ?_, ?_⟩
  · have here : i = a := by omega
    exact here ▸ not_stops goes live
  · rw [result, if_pos final]
  · rw [calls_append, calls_append, made]
    rfl
  · rw [waited, if_pos final, Nat.add_sub_cancel, Nat.sub_self, waits_append, waits_append]
    simp [waits, Op.isWait]

theorem ends_again (final : ¬Final policy cfg c (a + 1))
    (next : ∀ log, calls log = a + 1 → ∃ k, Ends policy cfg c (a + 1) log
      (run c.handler (loop (hooks cfg) callFn left (a + 2)) log) k) :
    ∃ k, Ends policy cfg c a log
      (run c.handler (loop (hooks cfg) callFn (left + 1) (a + 1)) log) k := by
  have here : ∀ i, a ≤ i → i < a + 1 → ¬Stops policy cfg c i := fun i le lt =>
    (show i = a by omega) ▸ not_stops goes live
  obtain ⟨log', made', noticed, ran⟩ := @run_again policy cfg c a left log made live final
  rw [ran]
  cases woken : c.wait (a + 1) with
  | some cut =>
    obtain ⟨ended, rfl⟩ := sleepCtx_eq_some woken
    refine ⟨a + 1, by omega, .inr (Context.done_mono (Nat.le_succ _) ended), here, ?_, made', ?_⟩
    · rw [result, if_neg final]
      rfl
    · rw [waited, if_neg final, Nat.add_sub_cancel_left, List.range'_one, List.flatMap_singleton]
      exact noticed
  | none =>
    obtain ⟨k, rest⟩ := next _ made'
    have further : waited policy cfg c k - a = waited policy cfg c k - (a + 1) + 1 := by
      have le := rest.le
      unfold waited
      split_ifs with ended
      · have later : k ≠ a + 1 := fun same => final (same ▸ ended)
        omega
      · omega
    refine ⟨k, by have le := rest.le; omega, rest.stops, fun i le lt => ?_, rest.returned,
      rest.calls, ?_⟩
    · by_cases first : i < a + 1
      · exact here i le first
      · exact rest.first i (by omega) lt
    · rw [further, List.range'_succ, List.flatMap_cons, ← List.append_assoc, ← noticed]
      exact rest.waits

end Live

theorem exists_ends (made : calls log = a) (goes : ¬Final policy cfg c a)
    (cap : policy.attempts = a + 1 + left) :
    ∃ k, Ends policy cfg c a log (run c.handler (loop (hooks cfg) callFn left (a + 1)) log) k := by
  induction left generalizing a log with
  | zero =>
    cases ended : c.ctx.done (2 * a + 1) with
    | true => exact ⟨a, ends_dead made goes ended⟩
    | false => exact ⟨a + 1, ends_final made goes ended cap ⟨Nat.succ_pos a, .inr cap.symm⟩⟩
  | succ left ih =>
    cases ended : c.ctx.done (2 * a + 1) with
    | true => exact ⟨a, ends_dead made goes ended⟩
    | false =>
      by_cases final : Final policy cfg c (a + 1)
      · exact ⟨a + 1, ends_final made goes ended cap final⟩
      · exact ends_again made goes ended final fun log made => ih made final (by omega)

end Loop

/-- `Retry` returns, after the least number `k` of calls at which the last one succeeds, fails
for good or uses up the attempts, or at which the context is done before the next call. What it
returns is the outcome of call `k`, unless only the context stopped it; and it asks for the
waits before the calls `2` to `k`, and for one more if it is stopped by the context after a
call, each after the call of the hook for the attempt that failed. -/
theorem retry_run (policy : Policy) (cfg : Config) (c : Course) :
    ∃ k log, run c.handler (retry policy cfg) [] =
        (.returned (outcome (result policy cfg c k)), log) ∧
      IsLeast {i | Stops policy cfg c i} k ∧ calls log = k ∧
      (result policy cfg c k = none ↔ 0 < k ∧ c.outcome k = none) ∧
      waits log = (List.range' 1 (waited policy cfg c k)).flatMap (notice cfg c) := by
  obtain ⟨n, attempts⟩ := attempts_pos policy
  have goes : ¬Final policy cfg c 0 := fun final => absurd final.1 (lt_irrefl 0)
  obtain ⟨k, ends⟩ := @exists_ends policy cfg c 0 n [] rfl goes
    (attempts.trans (Nat.add_comm n 1))
  refine ⟨k, _, Prod.ext ?_ rfl, ⟨ends.stops, fun i stops => ?_⟩, ?_, ?_, ?_⟩
  · rw [retry, attempts, Nat.add_sub_cancel]
    exact ends.returned
  · by_contra less
    exact ends.first i (Nat.zero_le i) (not_le.mp less) stops
  · rw [retry, attempts, Nat.add_sub_cancel]
    exact ends.calls
  · unfold result
    split_ifs with final
    · exact ⟨fun none => ⟨final.1, none⟩, And.right⟩
    · refine ⟨nofun, fun ⟨called, succeeded⟩ => absurd ⟨called, .inl ?_⟩ final⟩
      rw [succeeded]
      rfl
  · rw [retry, attempts, Nat.add_sub_cancel]
    exact ends.waits

end DxCommonGo.RetryRuns
