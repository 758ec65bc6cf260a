import DxCommonGo.Transactions

/-! The life of a begun transaction. When the closure returns, the manager finishes it; when the
closure panics or ends its goroutine, it stays open on its connection. -/

namespace DxCommonGo.TxLifecycle
open GoStrings DxErrors Programs PgxPool Transactions

variable {T ω α : Type}

def Settled (w : World ω) (tx : Nat) : Prop :=
  ∃ t, w.txs[tx]? = some t ∧ t.ended.length = 1 ∧ t.connHeld = false

def Closed (w : World ω) (tx : Nat) : Prop := ∃ t, w.txs[tx]? = some t ∧ t.closed = true

def commitCalls (w : World ω) (tx : Nat) : Nat := (w.txs[tx]?).elim 0 fun t => t.calls.count .commit

def Returns : Ending α → Prop
  | .returned _ => True
  | .panicked | .exited => False

def CommitsOnNil (inner : Ending (Option GoError) × World ω) (tx : Nat) (w : World ω) : Prop :=
  inner.1 ≠ .returned none → commitCalls w tx = commitCalls inner.2 tx

def Keeps (w w' : World ω) : Prop :=
  ∀ (tx : Nat) (t : PgTx), w.txs[tx]? = some t →
    ∃ t' : PgTx, w'.txs[tx]? = some t' ∧ (t.closed = true → t'.closed = true)

theorem finish_closed (t : PgTx) (how : Finish) : (t.finish how).closed = true := by
  unfold PgTx.finish
  split
  · assumption
  · rfl

variable {tx : Nat} {w : World ω} {S : Server T ω}

theorem settled_iff_closed : Settled w tx ↔ Closed w tx := by
  constructor
  · rintro ⟨t, ht, hended, -⟩
    refine ⟨t, ht, ?_⟩
    by_contra hopen
    rw [(t.whenOpen (by simpa using hopen)).2] at hended
    cases hended
  · rintro ⟨t, ht, hclosed⟩
    exact ⟨t, ht, (t.whenClosed hclosed).2, (t.whenClosed hclosed).1⟩

theorem finishTx_txs {how : Finish} {t : PgTx} (ht : w.txs[tx]? = some t) :
    (finishTx S how tx w).2.txs = w.txs.set tx (t.finish how) := by
  simp only [finishTx, ht]
  split <;> rfl

theorem finishTx_tx {how : Finish} {t : PgTx} (ht : w.txs[tx]? = some t) :
    (finishTx S how tx w).2.txs[tx]? = some (t.finish how) := by
  have bound := (List.getElem?_eq_some_iff.mp ht).1
  rw [finishTx_txs ht, List.getElem?_set_self bound]

theorem keeps_finishTx (S : Server T ω) (how : Finish) (tx : Nat) (w : World ω) :
    Keeps w (finishTx S how tx w).2 := by
  intro other t ht
  cases hw : w.txs[tx]? with
  | none =>
    refine ⟨t, ?_, id⟩
    simpa [finishTx, hw] using ht
  | some u =>
    rw [finishTx_txs hw]
    by_cases same : tx = other
    · subst same
      have bound := (List.getElem?_eq_some_iff.mp hw).1
      exact ⟨u.finish how, List.getElem?_set_self bound, fun _ => finish_closed u how⟩
    · exact ⟨t, by rw [List.getElem?_set_ne same, ht], id⟩

theorem keeps_handler (S : Server T ω) (op : Op) (w : World ω) : Keeps w (handler S op w).2 := by
  cases op with
  | finish how tx => exact keeps_finishTx S how tx w
  | begin =>
    intro tx t ht
    have bound := (List.getElem?_eq_some_iff.mp ht).1
    simp only [handler, beginTx]
    split
    · exact ⟨t, ht, id⟩
    · exact ⟨t, by rw [List.getElem?_append_left bound, ht], id⟩
  | exec | query | queryCounts | scanRow | scanCount | copyFrom | ctxErr | backoff | sleep =>
    exact fun tx t ht => ⟨t, ht, id⟩

theorem keeps_run (S : Server T ω) (p : GoProg T α) (w : World ω) :
    Keeps w (run (handler S) p w).2 := by
  apply run_relation
  · exact fun w tx t ht => ⟨t, ht, id⟩
  · intro u v w huv hvw tx t ht
    obtain ⟨t', ht', hclosed⟩ := huv tx t ht
    obtain ⟨t'', ht'', hclosed'⟩ := hvw tx t' ht'
    exact ⟨t'', ht'', fun h => hclosed' (hclosed h)⟩
  · exact keeps_handler S

theorem begun {w' : World ω} (hbegin : handler S .begin w = (.ok tx, w')) :
    w'.txs[tx]? = some PgTx.new := by
  simp only [handler, beginTx] at hbegin
  split at hbegin
  · cases hbegin
  · cases hbegin
    simp

def finishFor : Option GoError → Finish
  | some _ => .rollback
  | none => .commit

theorem run_conclude (S : Server T ω) (tx : Nat) (r : Option GoError) (w : World ω) :
    ∃ result, run (handler S) (conclude tx r : GoProg T (Option GoError)) w =
      (.returned result, (finishTx S (finishFor r) tx w).2) := by
  cases r with
  | none =>
    rw [conclude, run_ask_bind]
    split <;> exact ⟨_, rfl⟩
  | some fnErr =>
    rw [conclude, run_ask_bind]
    split <;> exact ⟨_, rfl⟩

theorem run_withTransaction {w' : World ω} (hbegin : handler S .begin w = (.ok tx, w'))
    (fn : Nat → GoProg T (Option GoError)) :
    run (handler S) (withTransaction fn) w =
      Ending.andThen (handler S) (conclude tx) (run (handler S) (fn tx) w') := by
  rw [withTransaction, run_ask_bind, hbegin]
  exact run_bind _ _ _ _

theorem run_inTransaction {w' : World ω} (hbegin : handler S .begin w = (.ok tx, w'))
    {ctx : Context} (hctx : ctx.tx = none) (fn : Context → Nat → GoProg T (Option GoError)) :
    run (handler S) (inTransaction ctx fn) w =
      Ending.andThen (handler S) (conclude tx)
        (run (handler S) (fn { ctx with tx := some tx } tx) w') := by
  simp only [inTransaction, txFromContext, hctx]
  rw [run_ask_bind, hbegin]
  exact run_bind _ _ _ _

theorem finish_calls (t : PgTx) (how : Finish) : (t.finish how).calls = t.calls ++ [how] := by
  unfold PgTx.finish
  split <;> rfl

theorem commitCalls_rollback (S : Server T ω) {t : PgTx} (ht : w.txs[tx]? = some t) :
    commitCalls (finishTx S .rollback tx w).2 tx = commitCalls w tx := by
  simp [commitCalls, finishTx_tx ht, ht, finish_calls]

theorem andThen_conclude_settled {inner : Ending (Option GoError) × World ω} {t : PgTx}
    (ht : inner.2.txs[tx]? = some t) :
    (Settled (Ending.andThen (handler S) (conclude tx) inner).2 tx ∧
        CommitsOnNil inner tx (Ending.andThen (handler S) (conclude tx) inner).2) ↔
      Returns inner.1 ∨ Closed inner.2 tx := by
  obtain ⟨ending, w⟩ := inner
  cases ending with
  | returned r =>
    obtain ⟨result, hrun⟩ := run_conclude S tx r w
    have closed : Closed (finishTx S (finishFor r) tx w).2 tx :=
      ⟨_, finishTx_tx ht, finish_closed t _⟩
    have commits : CommitsOnNil (.returned r, w) tx (finishTx S (finishFor r) tx w).2 := by
      intro notNil
      cases r with
      | none => exact absurd rfl notNil
      | some fnErr => exact commitCalls_rollback S ht
    simp only [Ending.andThen, hrun]
    exact iff_of_true ⟨settled_iff_closed.mpr closed, commits⟩ (.inl trivial)
  | panicked | exited =>
    simp only [Ending.andThen, CommitsOnNil, settled_iff_closed, Returns, false_or]
    exact and_iff_left fun _ => trivial

/-- By the time control leaves the manager the begun transaction is settled, and
Commit was called only on nil, exactly when the closure returned or had itself
committed or rolled back the transaction. -/
theorem transaction_settled_iff (S : Server T ω) {w w' : World ω} {tx : Nat}
    (hbegin : handler S .begin w = (.ok tx, w')) :
    (∀ fn : Nat → GoProg T (Option GoError),
      let inner := run (handler S) (fn tx) w'
      let outer := run (handler S) (withTransaction fn) w
      (Settled outer.2 tx ∧ CommitsOnNil inner tx outer.2) ↔
        Returns inner.1 ∨ Closed inner.2 tx) ∧
    (∀ (ctx : Context) (fn : Context → Nat → GoProg T (Option GoError)), ctx.tx = none →
      let inner := run (handler S) (fn { ctx with tx := some tx } tx) w'
      let outer := run (handler S) (inTransaction ctx fn) w
      (Settled outer.2 tx ∧ CommitsOnNil inner tx outer.2) ↔
        Returns inner.1 ∨ Closed inner.2 tx) := by
  constructor
  · intro fn
    obtain ⟨t, ht, -⟩ := keeps_run S (fn tx) w' tx PgTx.new (begun hbegin)
    dsimp only
    rw [run_withTransaction hbegin]
    exact andThen_conclude_settled ht
  · intro ctx fn hctx
    obtain ⟨t, ht, -⟩ :=
      keeps_run S (fn { ctx with tx := some tx } tx) w' tx PgTx.new (begun hbegin)
    dsimp only
    rw [run_inTransaction hbegin hctx]
    exact andThen_conclude_settled ht

def quietServer : Server Unit Unit where
  begin s := (none, s)
  finish _ _ s := (none, s)
  answer op s := match op with
    | .begin => (.ok 0, s)
    | .finish _ _ => (none, s)
    | .exec _ _ _ => (.ok 0, s)
    | .query _ _ _ => (.ok ⟨[], none⟩, s)
    | .queryCounts _ _ _ => (.ok ⟨[], none⟩, s)
    | .scanRow _ _ _ => (.ok [], s)
    | .scanCount _ _ _ => (.ok 0, s)
    | .copyFrom _ _ _ _ => (.ok 0, s)
    | .ctxErr => (none, s)
    | .backoff _ _ => (0, s)
    | .sleep _ => (none, s)

def newPool : World Unit := ⟨(), []⟩

theorem transaction_settled_quiet :
    Settled (run (handler quietServer) (withTransaction fun _ => pure none) newPool).2 0 := by
  have hbegin : handler quietServer .begin newPool = (.ok 0, ⟨(), [PgTx.new]⟩) := rfl
  have returns := (transaction_settled_iff quietServer hbegin).1 fun _ => pure none
  exact (returns.mpr (.inl trivial)).1

/-- A closure that panics, or ends its goroutine, leaves its transaction open on
its connection. -/
theorem panic_leaks_transaction :
    ¬Settled (run (handler quietServer) (withTransaction fun _ => .panic) newPool).2 0 ∧
    ¬Settled (run (handler quietServer) (inTransaction {} fun _ _ => .goexit) newPool).2 0 := by
  have leaked : ¬Settled (⟨(), [PgTx.new]⟩ : World Unit) 0 := by
    rw [settled_iff_closed]
    rintro ⟨t, ht, hclosed⟩
    cases ht
    cases hclosed
  exact ⟨leaked, leaked⟩

end DxCommonGo.TxLifecycle
