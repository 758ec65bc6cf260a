import DxCommonGo.BulkIndexing

/-! When `BulkDo` sends a batch again. The rule it documents asks whether there was a response; the
retry loop only sees the error that `DoNDJSON` made of the outcome. -/

namespace DxCommonGo.BulkResends
open GoStrings GoMaps GoErrors DxErrors Programs RetryLoop EsClient BulkIndexing

variable {J : Type}

structure Tape where
  ctxErr : Nat → Option GoError
  outcome : Nat → Outcome Raw
  delay : Nat → Int
  wait : Nat → Option GoError

def Tape.handler (tape : Tape) : Handler (Op J) Reply (List (List (Edit J)))
  | .ctxErr, sent => (tape.ctxErr sent.length, sent)
  | .backoff _ _, sent => (tape.delay sent.length, sent)
  | .sleep _, sent => (tape.wait sent.length, sent)
  | .bulk payload, sent => (tape.outcome sent.length, sent ++ [payload])
  | .onBatch _, sent => ((), sent)

def Tape.live (tape : Tape) : Nat → Prop
  | 0 => tape.ctxErr 0 = none
  | n + 1 => tape.wait (n + 1) = none ∧ tape.ctxErr (n + 1) = none

def contextual (err : GoError) : Bool :=
  errorsIs err (.sentinel .canceled) || errorsIs err (.sentinel .deadlineExceeded)

def resends (outcome : Outcome Raw) : Bool :=
  match doNDJSON outcome with
  | .ok _ => false
  | .error err => Retry.defaultRetryable err

theorem errorsIs_errorf (format : GoString) (err : GoError) (s : Sentinel) :
    errorsIs (errorf format err) (.sentinel s) = errorsIs err (.sentinel s) := by
  simp [errorsIs, errorf]

theorem defaultRetryable_errorf (format : GoString) (err : GoError) :
    Retry.defaultRetryable (errorf format err) = !contextual err := by
  rw [Retry.defaultRetryable, errorsIs_errorf, errorsIs_errorf, contextual]

@[simp] theorem resends_ok (raw : Raw) : resends (.ok raw) = false := rfl

@[simp] theorem resends_status (code : Nat) (body : ErrorBody) :
    resends (.error (.status code body)) = true := rfl

@[simp] theorem resends_unreadable (err : GoError) :
    resends (.error (.unreadable err)) = !contextual err := defaultRetryable_errorf _ err

@[simp] theorem resends_unreachable (err : GoError) :
    resends (.error (.unreachable err)) = !contextual err := defaultRetryable_errorf _ err

@[simp] theorem resends_unsent (err : GoError) :
    resends (.error (.unsent err)) = !contextual err := defaultRetryable_errorf _ err

section Loop

variable {tape : Tape} {policy : Retry.Policy} {payload : List (Edit J)}

variable {sent : List (List (Edit J))}

theorem run_ctxErr {reply : Option GoError} (answered : tape.ctxErr sent.length = reply) :
    run tape.handler (hooks policy).ctxErr sent = (.returned reply, sent) := by
  rw [← answered]
  rfl

end Loop

section Rule

variable {r q : Nat → Bool} {L : Nat → Prop} {attempts sent : Nat}
  (reached : ∀ k, k < sent ↔ L 0 ∧ k < attempts ∧ ∀ j < k, r j = true ∧ L (j + 1))

include reached

end Rule

def sendable (index : GoString) (ops : List (BulkOp J)) : Bool :=
  !ops.isEmpty && (ops.mapM (BulkOp.edit index)).isOk

end DxCommonGo.BulkResends
