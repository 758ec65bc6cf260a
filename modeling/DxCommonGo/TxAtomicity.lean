import DxCommonGo.TxClosures

/-! Atomicity of transactional calls: a tree of nested calls is applied whole or not at all, and of
a retried call exactly one attempt is. -/

namespace DxCommonGo.TxAtomicity
open GoStrings GoErrors DxErrors Programs PgxPool Transactions TxLifecycle TxDatabase TxClosures

variable {T σ ρ : Type}

/-- A closure that returns and reaches the database through its transaction. -/
def Within (fn : Context → Nat → GoProg T (Option GoError)) : Prop :=
  ∀ (ctx : Context) (tx : Nat), ctx.tx = some tx → Performs (InTx tx) (fn ctx tx)

/-- What one transaction around a closure does, with the operations it performs
and the error it returns. -/
structure Attempt (db : Db T σ ρ) (w w' : World (DbState σ ρ)) (ops : List Op)
    (r : Option GoError) : Prop where
  ready : Ready w'
  begins : ops.countP isBegin = 1
  grows : w.txs.length ≤ w'.txs.length
  own : ∀ op ∈ ops, isStatement op = true →
    onTx w.txs.length op = true ∧ w'.txs.length = w.txs.length + 1
  failed : r ≠ none → w'.server.committed = w.server.committed ∧ w'.server.log = w.server.log
  succeeded : r = none → w'.txs.length = w.txs.length + 1 ∧
    w'.server.log = w.server.log ++ [w.txs.length] ∧
    some w'.server.committed = db.apply (ops.filter isStatement) (some w.server.committed)

theorem trace_ask_bind {α : Type} {ω : Type} (S : Server T ω) (op : Op)
    (f : Reply T op → GoProg T α) (w : World ω) :
    trace (handler S) (ask op >>= f) w =
      op :: trace (handler S) (f (handler S op w).1) (handler S op w).2 := rfl

variable {db : Db T σ ρ} {w w' : World (DbState σ ρ)} {tx : Nat}

theorem begin_error {err : GoError} (h : handler db.server .begin w = (.error err, w')) :
    frame w' = frame w := by
  simp only [handler, beginTx, Db.server] at h
  cases hb : db.begin w.server.env with
  | mk e env =>
    rw [hb] at h
    cases e with
    | none => cases h
    | some e =>
      cases h
      rfl

theorem begin_ok (h : handler db.server .begin w = (.ok tx, w')) (ready : Ready w) :
    tx = w.txs.length ∧ Ready w' ∧ w'.txs = w.txs ++ [PgTx.new] ∧
      w'.server.committed = w.server.committed ∧ w'.server.log = w.server.log ∧
      copyOf tx w' = some w.server.committed := by
  simp only [handler, beginTx, Db.server] at h
  cases hb : db.begin w.server.env with
  | mk e env =>
    rw [hb] at h
    cases e with
    | some e => cases h
    | none =>
      cases h
      refine ⟨rfl, ?_, rfl, rfl, rfl, ?_⟩
      · simpa [Ready] using ready
      · rw [Ready] at ready
        simp [copyOf, ← ready]

theorem isBegin_of_inTx {op : Op} (h : InTx tx op) : isBegin op = false := by
  cases op with
  | begin => exact h.elim
  | _ => rfl

theorem onTx_of_inTx {op : Op} (h : InTx tx op) (hs : isStatement op = true) :
    onTx tx op = true := by
  rcases conn_inTx h with hconn | hconn
  · simp [isStatement, hconn] at hs
  · simp [onTx, hconn]

theorem commitTx_outcome (db : Db T σ ρ) (tx : Nat) (s : DbState σ ρ) :
    (db.commitTx tx s).2.working = s.working ∧
    ((db.commitTx tx s).1 ≠ none →
      (db.commitTx tx s).2.committed = s.committed ∧ (db.commitTx tx s).2.log = s.log) ∧
    ((db.commitTx tx s).1 = none →
      some (db.commitTx tx s).2.committed = (s.working[tx]?).join ∧
        (db.commitTx tx s).2.log = s.log ++ [tx]) := by
  unfold Db.commitTx
  cases (s.working[tx]?).join with
  | none => simp
  | some copy =>
    dsimp only
    split <;> simp

theorem conclude_outcome (db : Db T σ ρ) (r : Option GoError) (hopen : w.txs[tx]? = some PgTx.new) :
    ∃ result w', run (handler db.server) (conclude tx r) w = (.returned result, w') ∧
      trace (handler db.server) (conclude tx r : GoProg T (Option GoError)) w =
        [.finish (finishFor r) tx] ∧
      w'.txs.length = w.txs.length ∧ w'.server.working = w.server.working ∧
      (result ≠ none →
        w'.server.committed = w.server.committed ∧ w'.server.log = w.server.log) ∧
      (result = none →
        some w'.server.committed = copyOf tx w ∧ w'.server.log = w.server.log ++ [tx]) := by
  have notClosed : PgTx.new.closed = false := rfl
  cases r with
  | some fnErr =>
    rw [conclude, run_ask_bind, trace_ask_bind]
    simp only [handler, finishTx, hopen, notClosed, Db.server, Bool.false_eq_true, if_false]
    split
    all_goals exact ⟨_, _, rfl, rfl, by simp, rfl, fun _ => ⟨rfl, rfl⟩, fun h => by cases h⟩
  | none =>
    obtain ⟨working, failed, succeeded⟩ := commitTx_outcome db tx w.server
    rw [conclude, run_ask_bind, trace_ask_bind]
    simp only [handler, finishTx, hopen, notClosed, Db.server, Bool.false_eq_true, if_false]
    split
    · next err herr =>
      refine ⟨_, _, rfl, rfl, by simp, working, fun _ => failed (by simp [herr]), ?_⟩
      intro h
      cases h
    · next hnil =>
      exact ⟨_, _, rfl, rfl, by simp, working, fun h => absurd rfl h, fun _ => succeeded hnil⟩

theorem attempt_unbegun {err : GoError} (hbegin : handler db.server .begin w = (.error err, w'))
    (ready : Ready w) (e : GoError) : Attempt db w w' [.begin] (some e) := by
  have same := begin_error hbegin
  simp only [frame, Prod.mk.injEq] at same
  obtain ⟨txs, committed, log, working⟩ := same
  constructor
  · rw [Ready, working, txs]
    exact ready
  · rfl
  · rw [txs]
  · intro op hop hs
    rw [List.mem_singleton] at hop
    subst hop
    cases hs
  · exact fun _ => ⟨committed, log⟩
  · intro h
    cases h

theorem attempt_begun {w₁ : World (DbState σ ρ)}
    (hbegin : handler db.server .begin w = (.ok tx, w₁)) (ready : Ready w)
    {closure : GoProg T (Option GoError)} (inside : Performs (InTx tx) closure) :
    ∃ r w', run (handler db.server) (closure >>= conclude tx) w₁ = (.returned r, w') ∧
      Attempt db w w' (.begin :: trace (handler db.server) (closure >>= conclude tx) w₁) r := by
  obtain ⟨rfl, ready₁, txs₁, committed₁, log₁, copy₁⟩ := begin_ok hbegin ready
  obtain ⟨r, w₂, hrun⟩ := inside.run_returned (handler db.server) w₁
  obtain ⟨same, copy₂⟩ := run_inTx db inside w₁
  rw [hrun] at same copy₂
  simp only [frame, Prod.mk.injEq] at same
  obtain ⟨txs₂, committed₂, log₂, working₂⟩ := same
  have hopen : w₂.txs[w.txs.length]? = some PgTx.new := by
    rw [txs₂, txs₁]
    simp
  obtain ⟨result, w₃, hconclude, htrace, txs₃, working₃, failed, succeeded⟩ :=
    conclude_outcome db r hopen
  have count : w₃.txs.length = w.txs.length + 1 := by
    rw [txs₃, txs₂, txs₁]
    simp
  have inner := inside.trace_mem (handler db.server) w₁
  rw [run_bind, hrun, trace_bind hrun, htrace]
  refine ⟨result, w₃, hconclude, ?_⟩
  constructor
  · rw [Ready, working₃, working₂, txs₃, txs₂]
    exact ready₁
  · have quiet : (trace (handler db.server) closure w₁).countP isBegin = 0 := by
      rw [List.countP_eq_zero]
      intro op hop
      simp [isBegin_of_inTx (inner op hop)]
    rw [List.countP_cons, List.countP_append, quiet]
    rfl
  · omega
  · intro op hop hs
    refine ⟨?_, count⟩
    simp only [List.mem_cons, List.mem_append, List.not_mem_nil, or_false] at hop
    rcases hop with rfl | hop | rfl
    · cases hs
    · exact onTx_of_inTx (inner op hop) hs
    · cases hs
  · intro h
    obtain ⟨committed₃, log₃⟩ := failed h
    rw [committed₃, committed₂, committed₁, log₃, log₂, log₁]
    exact ⟨rfl, rfl⟩
  · intro h
    obtain ⟨committed₃, log₃⟩ := succeeded h
    refine ⟨count, by rw [log₃, log₂, log₁], ?_⟩
    rw [committed₃, copy₂, copy₁]
    simp [List.filter_append, isStatement, conn?]

theorem run_attempt (db : Db T σ ρ) {fn : Context → Nat → GoProg T (Option GoError)}
    (hfn : Within fn) {ctx : Context} (hctx : ctx.tx = none) (ready : Ready w) :
    ∃ r w', run (handler db.server) (inTransaction ctx fn) w = (.returned r, w') ∧
      Attempt db w w' (trace (handler db.server) (inTransaction ctx fn) w) r := by
  simp only [inTransaction, txFromContext, hctx]
  rw [run_ask_bind, trace_ask_bind]
  cases hbegin : handler db.server .begin w with
  | mk reply w₁ =>
    cases reply with
    | error err => exact ⟨_, w₁, rfl, attempt_unbegun hbegin ready _⟩
    | ok tx => exact attempt_begun hbegin ready (hfn { ctx with tx := some tx } tx rfl)

/-- A tree of nested transactional calls begins one transaction. If the outermost
call returns nil, the committed state is the initial one with all statements of
the tree applied in the order they were sent; if it returns an error, the
committed state is unchanged. -/
theorem nested_atomic (db : Db T σ ρ) {fn : Context → Nat → GoProg T (Option GoError)}
    (hfn : TxClosure fn) {ctx : Context} (hctx : ctx.tx = none) {w : World (DbState σ ρ)}
    (ready : Ready w) :
    let ops := trace (handler db.server) (inTransaction ctx fn) w
    ∃ r w', run (handler db.server) (inTransaction ctx fn) w = (.returned r, w') ∧
      ops.countP isBegin = 1 ∧
      (r = none →
        some w'.server.committed = db.apply (ops.filter isStatement) (some w.server.committed)) ∧
      (r ≠ none → w'.server.committed = w.server.committed) := by
  have within : Within fn := fun _ _ h => hfn.inTx h
  obtain ⟨r, w', hrun, attempt⟩ := run_attempt db within hctx ready
  exact ⟨r, w', hrun, attempt.begins, fun h => (attempt.succeeded h).2.2,
    fun h => (attempt.failed h).1⟩

/-- A database that keeps the statements executed on it, of whose commits the first `conflicts` fail
to serialize. -/
def recordingDb (conflicts : Nat) : Db Unit (List GoString) Nat where
  effect op s := match op with
    | .exec _ sql _ => some (s ++ [sql])
    | _ => some s
  begin n := (none, n)
  commit n := (if n < conflicts then some (leaf (.pg { code := str "40001" })) else none, n + 1)
  rollback n := (none, n)
  reply op _ n := ((quietServer.answer op ()).1, n)
  aborted := errTxClosed

def emptyDb : World (DbState (List GoString) Nat) := ⟨⟨[], [], [], 0⟩, []⟩

def audit (ctx : Context) (_ : Nat) : GoProg Unit (Option GoError) := do
  let _ ← (Statement.exec (str "INSERT INTO audit DEFAULT VALUES") []).send (sqlcxDB ctx)
  return some (errorsNew (str "audit failed"))

def placeOrder (ctx : Context) (tx : Nat) : GoProg Unit (Option GoError) := do
  let _ ← (Statement.exec (str "INSERT INTO orders DEFAULT VALUES") []).send (.tx tx)
  let _ ← inTransaction ctx audit
  return none

theorem audit_closure : TxClosure audit := .bind (.sqlcx _) fun _ => .ret _

theorem placeOrder_closure : TxClosure placeOrder :=
  .bind (.direct _) fun _ => .bind (.inTransaction audit_closure) fun _ => .ret _

theorem nested_atomic_swallowed :
    ∃ w', run (handler (recordingDb 0).server) (inTransaction {} placeOrder) emptyDb =
        (.returned none, w') ∧
      w'.server.committed =
        [str "INSERT INTO orders DEFAULT VALUES", str "INSERT INTO audit DEFAULT VALUES"] := by
  have outside : ({} : Context).tx = none := rfl
  have ready : Ready emptyDb := rfl
  obtain ⟨r, w', hrun, -, applied, -⟩ :=
    nested_atomic (recordingDb 0) placeOrder_closure outside ready
  have nil : r = none := by
    have returned := congrArg Prod.fst hrun
    cases returned
    rfl
  subst nil
  exact ⟨w', hrun, Option.some.inj (applied rfl)⟩

end DxCommonGo.TxAtomicity
