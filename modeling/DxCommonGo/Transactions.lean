import DxCommonGo.Retry

/-! The transaction manager: transactions around a closure, their propagation through the context,
and retries. Nothing is deferred, so a panic of the closure passes through. -/

namespace DxCommonGo.Transactions
open GoStrings GoErrors DxErrors PgxPool Retry

structure Context where
  tx : Option Nat := none
  actor : Option GoString := none

variable {T : Type}

def txFromContext (ctx : Context) : Option Nat := ctx.tx

def conclude (tx : Nat) : Option GoError → GoProg T (Option GoError)
  | some fnErr => do
    match ← ask (.finish .rollback tx) with
    | some _ => return some (errorf (str "transaction fn error: %w; rollback error: %v") fnErr)
    | none => return some fnErr
  | none => do
    match ← ask (.finish .commit tx) with
    | some err => return some (errorf (str "committing transaction: %w") err)
    | none => return none

def withTransaction (fn : Nat → GoProg T (Option GoError)) : GoProg T (Option GoError) := do
  match ← ask .begin with
  | .error err => return some (errorf (str "beginning transaction: %w") err)
  | .ok tx => fn tx >>= conclude tx

def inTransaction (ctx : Context) (fn : Context → Nat → GoProg T (Option GoError)) :
    GoProg T (Option GoError) :=
  match txFromContext ctx with
  | some tx => fn ctx tx
  | none => do
    match ← ask .begin with
    | .error err => return some (errorf (str "beginning transaction: %w") err)
    | .ok tx => fn { ctx with tx := some tx } tx >>= conclude tx

/-- The caller's settings; zero leaves a default in place. -/
structure TxRetryConfig where
  maxAttempts : Int := 0
  baseDelay : Int := 0

def resolveRetryConfig (cfg : List TxRetryConfig) : TxRetryConfig :=
  let defaults : TxRetryConfig := ⟨3, 20 * 10 ^ 6⟩
  match cfg with
  | [] => defaults
  | first :: _ =>
    ⟨if 0 < first.maxAttempts then first.maxAttempts else defaults.maxAttempts,
      if 0 < first.baseDelay then first.baseDelay else defaults.baseDelay⟩

def isRetryablePgError (err : GoError) : Bool :=
  match errorsAs err asPgError with
  | none => false
  | some pgErr => pgErr.code = str "40001" || pgErr.code = str "40P01"

def retryTx (label : GoString) (rc : TxRetryConfig) (runTx : GoProg T (Option GoError)) :
    GoProg T (Option GoError) := do
  let policy : Policy := ⟨rc.maxAttempts, rc.baseDelay⟩
  match ← retry policy runTx { retryable := isRetryablePgError } with
  | none => return none
  | some err =>
    if isRetryablePgError err then
      return some (errorf (str "transaction." ++ label ++ str ": giving up after " ++
        itoa rc.maxAttempts ++ str " attempts: %w") err)
    else return some err

def withRetryableTx (fn : Nat → GoProg T (Option GoError)) (cfg : List TxRetryConfig) :
    GoProg T (Option GoError) :=
  retryTx (str "WithRetryableTx") (resolveRetryConfig cfg) (withTransaction fn)

def inRetryableTransaction (ctx : Context) (fn : Context → Nat → GoProg T (Option GoError))
    (cfg : List TxRetryConfig) : GoProg T (Option GoError) :=
  match txFromContext ctx with
  | some _ => inTransaction ctx fn
  | none =>
    retryTx (str "InRetryableTransaction") (resolveRetryConfig cfg) (inTransaction ctx fn)

end DxCommonGo.Transactions
