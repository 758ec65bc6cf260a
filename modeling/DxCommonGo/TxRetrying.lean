import DxCommonGo.TxAtomicity

/-! Retried transactions: a failed attempt leaves the committed state as it was, so a call commits
one attempt and returns nil, or none and returns an error. -/

namespace DxCommonGo.TxRetrying
open GoStrings DxErrors Programs PgxPool Retry Transactions TxDatabase TxClosures
open TxAtomicity

variable {T σ ρ : Type}

/-- The call begins at most `n` transactions, and the committed state changes only by the last of
them, when it returns nil. -/
structure Outcome (db : Db T σ ρ) (n : Nat) (w w' : World (DbState σ ρ)) (ops : List Op)
    (r : Option GoError) : Prop where
  ready : Ready w'
  begins : ops.countP isBegin ≤ n
  grows : w.txs.length ≤ w'.txs.length
  fresh : ∀ op ∈ ops, ∀ tx, onTx tx op = true → w.txs.length ≤ tx ∧ tx < w'.txs.length
  failed : r ≠ none → w'.server.committed = w.server.committed ∧ w'.server.log = w.server.log
  succeeded : r = none → ∃ tx, w.txs.length ≤ tx ∧ w'.txs.length = tx + 1 ∧
    w'.server.log = w.server.log ++ [tx] ∧
    some w'.server.committed = db.apply (ops.filter (onTx tx)) (some w.server.committed)

variable {op : Op} {db : Db T σ ρ} {r : Option GoError} {w : World (DbState σ ρ)}

theorem isStatement_of_onTx {tx : Nat} (h : onTx tx op = true) : isStatement op = true := by
  simp only [onTx, decide_eq_true_eq] at h
  simp [isStatement, h]

theorem onTx_unique {tx tx' : Nat} (h : onTx tx op = true) (h' : onTx tx' op = true) :
    tx = tx' := by
  simp only [onTx, decide_eq_true_eq] at h h'
  rw [h] at h'
  cases h'
  rfl

theorem outcome_of_attempt {w' : World (DbState σ ρ)} {ops : List Op} (h : Attempt db w w' ops r) :
    Outcome db 1 w w' ops r := by
  have own : ∀ op ∈ ops, ∀ tx, onTx tx op = true → tx = w.txs.length := fun op hop tx htx =>
    onTx_unique htx (h.own op hop (isStatement_of_onTx htx)).1
  constructor
  · exact h.ready
  · exact h.begins.le
  · exact h.grows
  · intro op hop tx htx
    have same := own op hop tx htx
    have count := (h.own op hop (isStatement_of_onTx htx)).2
    omega
  · exact h.failed
  · intro hr
    obtain ⟨count, log, committed⟩ := h.succeeded hr
    refine ⟨w.txs.length, le_rfl, count, log, ?_⟩
    rw [committed]
    congr 1
    apply List.filter_congr
    intro op hop
    rw [Bool.eq_iff_iff]
    exact ⟨fun hs => (h.own op hop hs).1, isStatement_of_onTx⟩

theorem Outcome.andThen {n m : Nat} {w₁ w₂ : World (DbState σ ρ)} {ops ops' : List Op}
    {err : GoError} (first : Outcome db n w w₁ ops (some err)) (rest : Outcome db m w₁ w₂ ops' r) :
    Outcome db (n + m) w w₂ (ops ++ ops') r := by
  obtain ⟨committed₁, log₁⟩ := first.failed (by simp)
  have grows₁ := first.grows
  have grows₂ := rest.grows
  constructor
  · exact rest.ready
  · rw [List.countP_append]
    exact Nat.add_le_add first.begins rest.begins
  · omega
  · intro op hop tx htx
    rcases List.mem_append.mp hop with hop | hop
    · have bounds := first.fresh op hop tx htx
      omega
    · have bounds := rest.fresh op hop tx htx
      omega
  · intro h
    obtain ⟨committed₂, log₂⟩ := rest.failed h
    rw [committed₂, log₂, committed₁, log₁]
    exact ⟨rfl, rfl⟩
  · intro h
    obtain ⟨tx, later, count, log₂, committed₂⟩ := rest.succeeded h
    refine ⟨tx, by omega, count, by rw [log₂, log₁], ?_⟩
    have earlier : ops.filter (onTx tx) = [] := by
      rw [List.filter_eq_nil_iff]
      intro op hop htx
      have bounds := first.fresh op hop tx htx
      omega
    rw [List.filter_append, earlier, List.nil_append, committed₂, committed₁]

theorem Outcome.mono {n m : Nat} {w' : World (DbState σ ρ)} {ops : List Op}
    (h : Outcome db n w w' ops r) (hnm : n ≤ m) : Outcome db m w w' ops r :=
  { h with begins := h.begins.trans hnm }

def Waits : Op → Prop
  | .ctxErr | .backoff _ _ | .sleep _ => True
  | _ => False

theorem Waits.inTx (h : Waits op) (tx : Nat) : InTx tx op := by
  cases op with
  | ctxErr | backoff | sleep => trivial
  | _ => exact h.elim

theorem Waits.conn (h : Waits op) : conn? op = none := by
  cases op with
  | ctxErr | backoff | sleep => rfl
  | _ => exact h.elim

theorem outcome_wait (db : Db T σ ρ) (hop : Waits op) (ready : Ready w) (err : GoError) :
    Outcome db 0 w (handler db.server op w).2 [op] (some err) := by
  have same := frame_step db (hop.inTx 0) w
  simp only [frame, Prod.mk.injEq] at same
  obtain ⟨txs, committed, log, working⟩ := same
  constructor
  · rw [Ready, working, txs]
    exact ready
  · simp [isBegin_of_inTx (hop.inTx 0)]
  · rw [txs]
  · intro op' hop' tx htx
    rw [List.mem_singleton] at hop'
    subst hop'
    simp [onTx, hop.conn] at htx
  · exact fun _ => ⟨committed, log⟩
  · intro h
    cases h

def HasOutcome (db : Db T σ ρ) (n : Nat) (p : GoProg T (Option GoError))
    (w : World (DbState σ ρ)) : Prop :=
  ∃ r w', run (handler db.server) p w = (.returned r, w') ∧
    Outcome db n w w' (trace (handler db.server) p w) r

theorem hasOutcome_error (db : Db T σ ρ) (n : Nat) (ready : Ready w) (err : GoError) :
    HasOutcome db n (pure (some err)) w := by
  refine ⟨_, w, rfl, ready, by simp [trace, pure], le_rfl, ?_, fun _ => ⟨rfl, rfl⟩, ?_⟩
  · intro op hop
    cases hop
  · intro h
    cases h

theorem hasOutcome_wait {n : Nat} (hop : Waits op) {f : Reply T op → GoProg T (Option GoError)}
    (ready : Ready w) (h : ∀ reply w', Ready w' → HasOutcome db n (f reply) w') :
    HasOutcome db n (ask op >>= f) w := by
  have waited := outcome_wait db hop ready errTxClosed
  obtain ⟨r, w', hrun, outcome⟩ := h (handler db.server op w).1 _ waited.ready
  have whole := waited.andThen outcome
  rw [Nat.zero_add] at whole
  exact ⟨r, w', hrun, whole⟩

theorem HasOutcome.after_error {n m : Nat} {p : GoProg T (Option GoError)}
    {f : Option GoError → GoProg T (Option GoError)} (h : HasOutcome db n p w)
    (herr : ∀ err w', Ready w' → HasOutcome db m (f (some err)) w') (hnil : f none = pure none) :
    HasOutcome db (n + m) (p >>= f) w := by
  obtain ⟨r, w', hrun, outcome⟩ := h
  rw [HasOutcome, run_bind, hrun, trace_bind hrun]
  cases r with
  | none =>
    have nothing : trace (handler db.server) (f none) w' = [] := by
      rw [hnil]
      rfl
    rw [nothing, List.append_nil, Ending.andThen, hnil]
    exact ⟨none, w', rfl, outcome.mono (Nat.le_add_right n m)⟩
  | some err =>
    obtain ⟨r', w'', hrun', outcome'⟩ := herr err w' outcome.ready
    exact ⟨r', w'', hrun', outcome.andThen outcome'⟩

variable {runTx : GoProg T (Option GoError)}

/-- The retry loop over attempts: each iteration but the last failed, so at most
the last one has changed the committed state. -/
theorem retryFrom_outcome (hrun : ∀ w, Ready w → HasOutcome db 1 runTx w) (policy : Policy)
    (retryable : GoError → Bool) (left attempt : Nat) (lastErr : Option GoError)
    (hlast : left = 0 → lastErr ≠ none) (ready : Ready w) :
    HasOutcome db left (retryFrom policy { retryable } runTx left attempt lastErr) w := by
  induction left generalizing attempt lastErr w with
  | zero =>
    cases lastErr with
    | none => exact absurd rfl (hlast rfl)
    | some err => exact hasOutcome_error db 0 ready err
  | succ left ih =>
    rw [retryFrom]
    refine hasOutcome_wait (by trivial) ready fun reply w₁ ready₁ => ?_
    cases reply with
    | some err => exact hasOutcome_error db _ ready₁ err
    | none =>
      rw [Nat.add_comm]
      refine HasOutcome.after_error (hrun w₁ ready₁) (fun err w₂ ready₂ => ?_) (by rfl)
      dsimp only
      split_ifs
      · exact hasOutcome_error db left ready₂ err
      · refine hasOutcome_wait (by trivial) ready₂ fun delay w₃ ready₃ => ?_
        refine hasOutcome_wait (by trivial) ready₃ fun reply w₄ ready₄ => ?_
        cases reply with
        | some err => exact hasOutcome_error db left ready₄ err
        | none => exact ih (attempt + 1) (some err) (fun _ => by simp) ready₄

theorem resolveRetryConfig_pos (cfg : List TxRetryConfig) :
    0 < (resolveRetryConfig cfg).maxAttempts := by
  unfold resolveRetryConfig
  cases cfg with
  | nil => decide
  | cons first rest =>
    dsimp only
    split_ifs with h
    · exact h
    · decide

theorem retryTx_outcome (hrun : ∀ w, Ready w → HasOutcome db 1 runTx w) (label : GoString)
    {rc : TxRetryConfig} (hrc : 0 < rc.maxAttempts) (ready : Ready w) :
    HasOutcome db rc.maxAttempts.toNat (retryTx label rc runTx) w := by
  have attempts : Policy.attempts ⟨rc.maxAttempts, rc.baseDelay⟩ = rc.maxAttempts.toNat := by
    rw [Policy.attempts, if_neg]
    exact not_lt.mpr hrc
  have loop := retryFrom_outcome hrun ⟨rc.maxAttempts, rc.baseDelay⟩ isRetryablePgError
    rc.maxAttempts.toNat 1 none (by omega) ready
  rw [retryTx, retry, attempts]
  change HasOutcome db (rc.maxAttempts.toNat + 0) _ w
  refine HasOutcome.after_error loop (fun err w' ready' => ?_) (by rfl)
  dsimp only
  split_ifs <;> exact hasOutcome_error db 0 ready' _

/-- Outside a transaction a retried call begins at most its maximum of attempts,
and returns nil exactly if one transaction committed, the last one begun, whose
statements and no others were applied; inside one it is its closure. -/
theorem retryable_atomic (db : Db T σ ρ) {fn : Context → Nat → GoProg T (Option GoError)}
    (hfn : Within fn) (cfg : List TxRetryConfig) {w : World (DbState σ ρ)} (ready : Ready w) :
    (∀ ctx : Context, ctx.tx = none →
      let call := inRetryableTransaction ctx fn cfg
      let ops := trace (handler db.server) call w
      ∃ r w', run (handler db.server) call w = (.returned r, w') ∧
        (ops.countP isBegin : Int) ≤ (resolveRetryConfig cfg).maxAttempts ∧
        (r = none ↔ w'.server.log ≠ w.server.log) ∧
        (r = none → ∃ tx, w'.server.log = w.server.log ++ [tx] ∧ w.txs.length ≤ tx ∧
          w'.txs.length = tx + 1 ∧
          some w'.server.committed = db.apply (ops.filter (onTx tx)) (some w.server.committed)) ∧
        (r ≠ none → w'.server.committed = w.server.committed)) ∧
    (∀ (ctx : Context) (tx : Nat), ctx.tx = some tx →
      inRetryableTransaction ctx fn cfg = fn ctx tx) := by
  constructor
  · intro ctx hctx
    have attempt : ∀ w, Ready w → HasOutcome db 1 (inTransaction ctx fn) w := by
      intro w hw
      obtain ⟨r, w', hrun, attempt⟩ := run_attempt db hfn hctx hw
      exact ⟨r, w', hrun, outcome_of_attempt attempt⟩
    have positive := resolveRetryConfig_pos cfg
    obtain ⟨r, w', hrun, outcome⟩ :=
      retryTx_outcome attempt (str "InRetryableTransaction") positive ready
    have begins := outcome.begins
    simp only [inRetryableTransaction, txFromContext, hctx]
    refine ⟨r, w', hrun, by omega, ?_, ?_, fun h => (outcome.failed h).1⟩
    · constructor
      · intro h
        obtain ⟨tx, -, -, log, -⟩ := outcome.succeeded h
        simp [log]
      · intro h
        by_contra hr
        exact h (outcome.failed hr).2
    · intro h
      obtain ⟨tx, later, count, log, committed⟩ := outcome.succeeded h
      exact ⟨tx, log, later, count, committed⟩
  · intro ctx tx hctx
    simp only [inRetryableTransaction, inTransaction, txFromContext, hctx]

def placeOne (_ : Context) (tx : Nat) : GoProg Unit (Option GoError) := do
  let _ ← (Statement.exec (str "INSERT INTO orders DEFAULT VALUES") []).send (.tx tx)
  return none

theorem retryable_atomic_conflict :
    ∃ w', run (handler (recordingDb 2).server) (inRetryableTransaction {} placeOne []) emptyDb =
        (.returned none, w') ∧ w'.txs.length = 3 ∧
      w'.server.committed = [str "INSERT INTO orders DEFAULT VALUES"] := by
  have within : Within placeOne := fun _ tx _ => ⟨rfl, fun _ => trivial⟩
  have ready : Ready emptyDb := rfl
  obtain ⟨r, w', hrun, -, -, succeeded, -⟩ :=
    (retryable_atomic (recordingDb 2) within [] ready).1 {} rfl
  have nil : r = none := by
    have returned := congrArg Prod.fst hrun
    cases returned
    rfl
  subst nil
  have count : w'.txs.length = 3 := by
    have final := congrArg (fun p => p.2.txs.length) hrun
    exact final.symm
  obtain ⟨tx, -, -, last, committed⟩ := succeeded rfl
  have third : tx = 2 := by omega
  subst third
  exact ⟨w', hrun, count, Option.some.inj committed⟩

end DxCommonGo.TxRetrying
