import DxCommonGo.EsClient
import DxCommonGo.GoMaps
import DxCommonGo.GoUtf8
import DxCommonGo.Retry

/-! The bulk API in package `indexing`. The lines of a request are given as what is decoded from
them: an operation, and the document below it. -/

namespace DxCommonGo.BulkIndexing
open GoStrings GoMaps DxErrors GoUtf8 Programs RetryLoop EsClient

variable {J : Type}

inductive Action where
  | index | update | delete
  | unknown (name : GoString)

structure BulkOp (J : Type) where
  action : Action
  id : GoString
  doc : Except GoError J

def indexOp (id : GoString) (doc : Except GoError J) : BulkOp J := ⟨.index, id, doc⟩

inductive Change (J : Type) where
  | index (doc : J)
  | update (part : J)
  | delete

structure Edit (J : Type) where
  index : GoString
  id : GoString
  change : Change J

/-- The strings are written as JSON, which replaces what is not UTF-8. -/
def BulkOp.edit (index : GoString) (op : BulkOp J) : Except GoError (Edit J) :=
  let edit := Edit.mk (coerce index) (coerce op.id)
  match op.action, op.doc with
  | .index, .ok doc => .ok (edit (.index doc))
  | .index, .error err => .error (errorf (str "elastic: marshal bulk doc %s: %w") err)
  | .update, .ok doc => .ok (edit (.update doc))
  | .update, .error err => .error (errorf (str "elastic: marshal bulk update %s: %w") err)
  | .delete, _ => .ok (edit .delete)
  | .unknown _, _ => .error (errorsNew (str "elastic: unknown bulk action %q for %s"))

structure ItemResult where
  id : GoString
  error : Option (GoString × GoString)

abbrev Item := GoMap ItemResult

structure ItemError where
  id : GoString
  reason : GoString

structure BulkStats where
  indexed : Nat := 0
  failed : Nat := 0
  errors : List ItemError := []

inductive Op (J : Type) where
  | ctxErr
  | backoff (baseDelay : Int) (attempt : Nat)
  | sleep (delay : Int)
  | bulk (payload : List (Edit J))
  | onBatch (stats : BulkStats)

abbrev Raw := Except GoError (List Item)

abbrev Reply : Op J → Type
  | .ctxErr => Option GoError
  | .backoff _ _ => Int
  | .sleep _ => Option GoError
  | .bulk _ => Outcome Raw
  | .onBatch _ => Unit

abbrev BulkProg (J α : Type) := Prog (Op J) Reply α

def BulkStats.add (stats : BulkStats) (result : ItemResult) : BulkStats :=
  match result.error with
  | some (type, reason) =>
    { stats with
      failed := stats.failed + 1
      errors := stats.errors ++ [⟨result.id, type ++ str ": " ++ reason⟩] }
  | none => { stats with indexed := stats.indexed + 1 }

def parseBulkResponse (ord : RangeOrder) (raw : Raw) : Except GoError BulkStats :=
  match raw with
  | .error err => .error (errorf (str "elastic: decode bulk response: %w") err)
  | .ok items =>
    .ok (items.foldl (fun stats item =>
      (range ord 0 item).foldl (fun stats result => stats.add result.2) stats) {})

def hooks (policy : Retry.Policy) : Hooks (Op J) Reply GoError Int where
  retryable := Retry.defaultRetryable
  ctxErr := perform Op.ctxErr
  backoff attempt := perform (Op.backoff policy.baseDelay attempt)
  onRetry _ _ _ := pure ()
  sleep delay := perform (Op.sleep delay)

def sendBulk (payload : List (Edit J)) : BulkProg J (Except GoError Raw) := do
  let outcome ← perform (Op.bulk payload)
  pure (doNDJSON outcome)

def retry (policy : Retry.Policy) (fn : BulkProg J (Except GoError Raw)) :
    BulkProg J (Except GoError Raw) :=
  loop (hooks policy) fn (policy.attempts - 1) 1

def maxAttemptsOf (maxAttempts : Int) : Int := if maxAttempts ≤ 0 then 3 else maxAttempts

def bulkDo (ord : RangeOrder) (index : GoString) (ops : List (BulkOp J)) (maxAttempts : Int) :
    BulkProg J (Except GoError BulkStats) := do
  if ops.isEmpty then return .ok {}
  match ops.mapM (BulkOp.edit index) with
  | .error err => return .error err
  | .ok payload =>
    match ← retry { maxAttempts := maxAttemptsOf maxAttempts } (sendBulk payload) with
    | .error err =>
      return .error (errorf (str "elastic: bulk failed after %d attempts: %w") err)
    | .ok raw => return parseBulkResponse ord raw

theorem run_bulkDo_answered {ω : Type} {h : Handler (Op J) Reply ω} {w u v : ω} {index : GoString}
    {ops : List (BulkOp J)} {payload : List (Edit J)} {raw : Raw} (some : ops ≠ [])
    (encoded : ops.mapM (BulkOp.edit index) = .ok payload)
    (asked : run h (perform Op.ctxErr) w = (.returned none, u))
    (answered : run h (sendBulk payload) u = (.returned (.ok raw), v)) (ord : RangeOrder)
    (maxAttempts : Int) :
    run h (bulkDo ord index ops maxAttempts) w = (.returned (parseBulkResponse ord raw), v) := by
  obtain ⟨op, ops, rfl⟩ := List.exists_cons_of_ne_nil some
  rw [bulkDo, encoded]
  change run h (retry _ (sendBulk payload) >>= _) w = _
  rw [run_bind, retry, run_loop_ok asked answered]
  rfl

end DxCommonGo.BulkIndexing
