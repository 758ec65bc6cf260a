import DxCommonGo.Repository
import DxCommonGo.TxLifecycle

/-! Retried transactions over the data access layer. The retry loop looks for a retryable `PgError`,
which the calls of the DAO never return. -/

namespace DxCommonGo.RetryableTx
open GoStrings GoErrors DxErrors Programs PgxPool Retry Transactions BaseDao Repository
open TxLifecycle

variable {T ω : Type}

def wrapAll (formats : List GoString) (err : GoError) : GoError := formats.foldr errorf err

theorem isRetryable_wrapAll (formats : List GoString) (err : GoError) :
    isRetryablePgError (wrapAll formats err) = isRetryablePgError err := by
  induction formats with
  | nil => rfl
  | cons format formats ih => rw [wrapAll, List.foldr_cons, isRetryable_errorf, ← wrapAll, ih]

/-- The attempt starting in `w` runs the transaction once, and its error ends the loop, however many
attempts are left. -/
def LastAttempt (S : Server T ω) (runTx : GoProg T (Option GoError)) (w : World ω) : Prop :=
  ∃ err w', run (handler S) runTx (handler S .ctxErr w).2 = (.returned (some err), w') ∧
    isRetryablePgError err = false ∧
    ∀ (policy : Policy) (left attempt : Nat) (lastErr : Option GoError),
      run (handler S) (retryFrom policy { retryable := isRetryablePgError } runTx (left + 1) attempt
        lastErr) w = (.returned (some err), w')

variable {S : Server T ω} {w : World ω} {runTx : GoProg T (Option GoError)}

theorem run_retryFrom_final {w' : World ω} {cfg : RetryConfig T} {fn : GoProg T (Option GoError)}
    {err : GoError} (hctx : (handler S .ctxErr w).1 = none)
    (hfn : run (handler S) fn (handler S .ctxErr w).2 = (.returned (some err), w'))
    (hfinal : cfg.retryable err = false) (policy : Policy) (left attempt : Nat)
    (lastErr : Option GoError) :
    run (handler S) (retryFrom policy cfg fn (left + 1) attempt lastErr) w =
      (.returned (some err), w') := by
  rw [retryFrom, run_ask_bind, hctx]
  dsimp only
  rw [run_bind, hfn]
  simp only [Ending.andThen, hfinal, or_true, if_true]
  rfl

theorem lastAttempt_of_final {w' : World ω} {err : GoError} (hctx : (handler S .ctxErr w).1 = none)
    (hrun : run (handler S) runTx (handler S .ctxErr w).2 = (.returned (some err), w'))
    (hfinal : isRetryablePgError err = false) : LastAttempt S runTx w :=
  ⟨err, w', hrun, hfinal, run_retryFrom_final hctx hrun hfinal⟩

theorem LastAttempt.run_retryTx (h : LastAttempt S runTx w) (label : GoString)
    (rc : TxRetryConfig) :
    run (handler S) (retryTx label rc runTx) w =
      run (handler S) runTx (handler S .ctxErr w).2 := by
  obtain ⟨err, w', hrun, hfinal, hloop⟩ := h
  obtain ⟨n, hn⟩ := attempts_pos ⟨rc.maxAttempts, rc.baseDelay⟩
  rw [retryTx, run_bind, retry, hn, hloop, hrun]
  simp only [Ending.andThen, hfinal]
  rfl

theorem run_conclude_error (S : Server T ω) (tx : Nat) (fnErr : GoError) (w : World ω) :
    ∃ err w', run (handler S) (conclude tx (some fnErr) : GoProg T (Option GoError)) w =
      (.returned (some err), w') ∧ isRetryablePgError err = isRetryablePgError fnErr := by
  rw [conclude, run_ask_bind]
  split
  · exact ⟨_, _, rfl, isRetryable_errorf _ _⟩
  · exact ⟨_, _, rfl, rfl⟩

theorem lastAttempt_of_callFails {tx : Nat} {err : GoError}
    {inner : Ending (Option GoError) × World ω} (hcall : CallFails err) (formats : List GoString)
    (hctx : (handler S .ctxErr w).1 = none) (hrun : run (handler S) runTx (handler S .ctxErr w).2 =
      Ending.andThen (handler S) (conclude tx) inner)
    (hfn : inner.1 = .returned (some (wrapAll formats err))) : LastAttempt S runTx w := by
  obtain ⟨ending, w'⟩ := inner
  subst hfn
  obtain ⟨result, w'', hconclude, hclass⟩ := run_conclude_error S tx (wrapAll formats err) w'
  rw [isRetryable_wrapAll, hcall.not_retryable] at hclass
  exact lastAttempt_of_final hctx (hrun.trans hconclude) hclass

/-- A transaction whose closure fails with the error of a DAO or repository
call, wrapped any number of times, is not run again: its error is not classified
as retryable, and the retrying entry points do what the plain ones do. -/
theorem callFailure_never_retried (S : Server T ω) (cfg : List TxRetryConfig)
    (formats : List GoString) {err : GoError} (hcall : CallFails err) {w w' w'' : World ω}
    {tx : Nat} (hctx : handler S .ctxErr w = (none, w'))
    (hbegin : handler S .begin w' = (.ok tx, w'')) :
    (∀ (ctx : Context) (fn : Context → Nat → GoProg T (Option GoError)), ctx.tx = none →
      (run (handler S) (fn { ctx with tx := some tx } tx) w'').1 =
        .returned (some (wrapAll formats err)) →
      LastAttempt S (inTransaction ctx fn) w ∧
        run (handler S) (inRetryableTransaction ctx fn cfg) w =
          run (handler S) (inTransaction ctx fn) w') ∧
    (∀ fn : Nat → GoProg T (Option GoError),
      (run (handler S) (fn tx) w'').1 = .returned (some (wrapAll formats err)) →
      LastAttempt S (withTransaction fn) w ∧
        run (handler S) (withRetryableTx fn cfg) w = run (handler S) (withTransaction fn) w') := by
  have hlive : (handler S .ctxErr w).1 = none := by rw [hctx]
  have hbegin' : handler S .begin (handler S .ctxErr w).2 = (.ok tx, w'') := by rw [hctx, hbegin]
  constructor
  · intro ctx fn outermost hfn
    have last : LastAttempt S (inTransaction ctx fn) w :=
      lastAttempt_of_callFails hcall formats hlive (run_inTransaction hbegin' outermost fn) hfn
    refine ⟨last, ?_⟩
    simp only [inRetryableTransaction, txFromContext, outermost]
    rw [last.run_retryTx, hctx]
  · intro fn hfn
    have last : LastAttempt S (withTransaction fn) w :=
      lastAttempt_of_callFails hcall formats hlive (run_withTransaction hbegin' fn) hfn
    refine ⟨last, ?_⟩
    rw [withRetryableTx, last.run_retryTx, hctx]

def serializationFailure : GoError := leaf (.pg { code := str "40001" })

def conflictServer : Server Unit Unit :=
  { quietServer with
    answer := fun op s => match op with
      | .exec _ _ _ => (.error serializationFailure, s)
      | op => quietServer.answer op s }

def items : Base := ⟨newBaseDAO .pool (str "items")⟩

def insertItem (ctx : Context) (_ : Nat) : GoProg Unit (Option GoError) := do
  return (← (items.daoIn ctx).insert [str "id"] [.int 1]).map (errorf (str "create item: %w"))

def insertDirectly (_ : Context) (tx : Nat) : GoProg Unit (Option GoError) := do
  return errorOf (← ask (.exec (.tx tx) (str "INSERT INTO items (id) VALUES ($1)") [.int 1]))

theorem callFailure_never_retried_insert :
    LastAttempt conflictServer (inTransaction {} insertItem) newPool ∧
    run (handler conflictServer) (inRetryableTransaction {} insertItem []) newPool =
      run (handler conflictServer) (inTransaction {} insertItem) newPool := by
  have hcall : CallFails (mapPgError serializationFailure) :=
    ⟨Unit, Unit, conflictServer, items.dao, .listed, {}, .insert [str "id"] [.int 1], newPool, _, rfl⟩
  have hctx : handler conflictServer .ctxErr newPool = (none, newPool) := rfl
  have hbegin : handler conflictServer .begin newPool = (.ok 0, ⟨(), [PgTx.new]⟩) := rfl
  have outermost := (callFailure_never_retried conflictServer [] [str "create item: %w"] hcall
    hctx hbegin).1
  exact outermost {} insertItem rfl rfl

/-- Three attempts are allowed and the driver's error is retryable; the insert
through the repository still gets one transaction, the direct one all three. -/
theorem serializationFailure_not_retried :
    isRetryablePgError serializationFailure = true ∧ (resolveRetryConfig []).maxAttempts = 3 ∧
    (run (handler conflictServer) (inRetryableTransaction {} insertItem []) newPool).2.txs.length
      = 1 ∧
    (run (handler conflictServer) (inRetryableTransaction {} insertDirectly [])
      newPool).2.txs.length = 3 := by
  decide +kernel

end DxCommonGo.RetryableTx
