import DxCommonGo.CircuitBreaker
import DxCommonGo.Retry
import DxCommonGo.Transcripts

/-! `UnaryClientInterceptor` of package `resilience`: a unary gRPC call that is made again after an
error with a retryable code, each time through the breaker if there is one. The code of `ErrOpen` is
Unknown. -/

namespace DxCommonGo.GrpcInterceptor
open GoStrings GoErrors DxErrors Programs Retry RetryLoop Transcripts
open CircuitBreaker (errOpen)

inductive Code where
  | ok | canceled | unknown | invalidArgument | deadlineExceeded | notFound | alreadyExists
  | permissionDenied | resourceExhausted | failedPrecondition | aborted | outOfRange
  | unimplemented | internal | unavailable | dataLoss | unauthenticated
  deriving DecidableEq

def defaultRetryableCodes : Code → Bool
  | .unavailable | .resourceExhausted | .aborted => true
  | _ => false

structure Config where
  policy : Policy := {}
  breaker : Bool := false
  isRetryable : Code → Bool := defaultRetryableCodes
  onRetry : Bool := false

inductive Op where
  | ctxErr
  | beforeCall
  | afterCall (err : Option GoError)
  | invoke (method : GoString)
  | backoff (attempt : Nat)
  | onRetry (attempt : Nat) (method : GoString) (err : GoError)
  | sleep (delay : Int)

abbrev Reply : Op → Type
  | .ctxErr => Option GoError
  | .beforeCall => Option GoError
  | .afterCall _ => Unit
  | .invoke _ => Option GoError
  | .backoff _ => Int
  | .onRetry _ _ _ => Unit
  | .sleep _ => Option GoError

/-- Only errors of other packages have a `GRPCStatus` method, and `carried` tells of which type and
text. -/
def grpcStatus (carried : GoString → GoString → Option Code) : ErrorValue → Option Code
  | .other type text => carried type text
  | _ => none

def statusCode (carried : GoString → GoString → Option Code) (err : GoError) : Code :=
  (errorsAs err (grpcStatus carried)).getD .unknown

def call (cfg : Config) (method : GoString) : Prog Op Reply (Except GoError Unit) := do
  if cfg.breaker = false then return outcome (← perform (Op.invoke method))
  else
    match ← perform Op.beforeCall with
    | some err => return .error err
    | none =>
      let err ← perform (Op.invoke method)
      perform (Op.afterCall err)
      return outcome err

def hooks (carried : GoString → GoString → Option Code) (cfg : Config) (method : GoString) :
    Hooks Op Reply GoError Int where
  retryable err := cfg.isRetryable (statusCode carried err)
  ctxErr := perform Op.ctxErr
  backoff attempt := perform (Op.backoff attempt)
  onRetry attempt err _ := if cfg.onRetry then perform (Op.onRetry attempt method err) else pure ()
  sleep delay := perform (Op.sleep delay)

def unaryClientInterceptor (carried : GoString → GoString → Option Code) (cfg : Config)
    (method : GoString) : Prog Op Reply (Except GoError Unit) :=
  loop (hooks carried cfg method) (call cfg method) (cfg.policy.attempts - 1) 1

def EndsAtOnce : Event Op Reply → Prog Op Reply (Except GoError Unit) → Prop
  | ⟨.beforeCall, some err⟩, rest => err = errOpen → rest = .ret (.error errOpen)
  | _, _ => True

section Interceptor

variable {carried : GoString → GoString → Option Code} {cfg : Config} {method : GoString}
  {past : List (Event Op Reply)}

theorem retryable_errOpen (default : cfg.isRetryable = defaultRetryableCodes) :
    (hooks carried cfg method).retryable errOpen = false := by
  have code : statusCode carried errOpen = .unknown := rfl
  rw [hooks]
  dsimp only
  rw [code, default]
  rfl

theorem endsAtOnce_call {f : Except GoError Unit → Prog Op Reply (Except GoError Unit)}
    (final : f (.error errOpen) = .ret (.error errOpen)) :
    Throughout (fun _ e rest => EndsAtOnce e (rest >>= f)) (fun _ _ => True) past
      (call cfg method) := by
  unfold call
  split_ifs
  · exact throughout_perform_bind (fun _ => trivial) fun _ => trivial
  · refine throughout_perform_bind ?_ ?_
    · rintro (_ | err)
      · trivial
      · rintro rfl
        exact final
    · rintro (_ | err)
      · exact throughout_perform_bind (fun _ => trivial) fun _ =>
          throughout_perform_bind (fun _ => trivial) fun _ => trivial
      · trivial

theorem endsAtOnce_onRetry (attempt : Nat) (err : GoError) (delay : Int)
    {f : Unit → Prog Op Reply (Except GoError Unit)} :
    Throughout (fun _ e rest => EndsAtOnce e (rest >>= f)) (fun _ _ => True) past
      ((hooks carried cfg method).onRetry attempt err delay) := by
  unfold hooks
  dsimp only
  split_ifs
  · exact fun _ => ⟨trivial, trivial⟩
  · trivial

theorem endsAtOnce_attempt {failed : GoError → Prog Op Reply (Except GoError Unit)}
    (final : failed errOpen = .ret (.error errOpen))
    (next : ∀ past err, Throughout (fun _ => EndsAtOnce) (fun _ _ => True) past (failed err)) :
    Throughout (fun _ => EndsAtOnce) (fun _ _ => True) past
      (attemptThen (hooks carried cfg method) (call cfg method) failed) := by
  unfold attemptThen
  refine throughout_perform_bind (fun _ => trivial) fun live => ?_
  cases live with
  | some err => trivial
  | none =>
    refine throughout_bind (endsAtOnce_call final) fun past result _ => ?_
    cases result with
    | ok a => trivial
    | error err => exact next past err

theorem endsAtOnce_loop (default : cfg.isRetryable = defaultRetryableCodes) (left attempt : Nat) :
    Throughout (fun _ => EndsAtOnce) (fun _ _ => True) past
      (loop (hooks carried cfg method) (call cfg method) left attempt) := by
  induction left generalizing past attempt with
  | zero => exact endsAtOnce_attempt rfl fun past err => trivial
  | succ left ih =>
    refine endsAtOnce_attempt ?_ fun past err => ?_
    · rw [if_pos (retryable_errOpen default)]
      rfl
    · split_ifs
      · trivial
      · refine throughout_perform_bind (fun _ => trivial) fun delay => ?_
        refine throughout_bind (endsAtOnce_onRetry attempt err delay) fun past _ _ => ?_
        refine throughout_perform_bind (fun _ => trivial) fun woken => ?_
        cases woken with
        | some cut => trivial
        | none => exact ih (attempt + 1)

end Interceptor

theorem rejection_ends {ω : Type} (carried : GoString → GoString → Option Code) {cfg : Config}
    (default : cfg.isRetryable = defaultRetryableCodes) (method : GoString)
    (h : Handler Op Reply ω) (w : ω) {pre post : List (Event Op Reply)}
    (rejected : transcript h (unaryClientInterceptor carried cfg method) w =
      pre ++ ⟨.beforeCall, some errOpen⟩ :: post) :
    post = [] ∧ (run h (unaryClientInterceptor carried cfg method) w).1 =
      .returned (.error errOpen) := by
  obtain ⟨rest, w', ends, after, same⟩ :=
    (@endsAtOnce_loop carried cfg method [] default _ 1).at_event rejected
  have returns : rest = .ret (.error errOpen) := ends rfl
  rw [returns] at after same
  exact ⟨after.symm, congrArg Prod.fst same.symm⟩

end DxCommonGo.GrpcInterceptor
