import DxCommonGo.Repository
import DxCommonGo.TxDatabase

/-! The closures that run inside a transaction. They send statements on it directly, through a
repository or through `sqlcx.DB`, and nest further calls: each layer looks the transaction up in the
context. -/

namespace DxCommonGo.TxClosures
open GoStrings GoMaps DxErrors QueryModel QueryBuilder Programs PgxPool Transactions
open BaseDao DaoFinder Repository TxDatabase

variable {T α : Type}

def sqlcxDB (ctx : Context) : Conn :=
  match txFromContext ctx with
  | some tx => .tx tx
  | none => .pool

inductive Statement where
  | exec (sql : GoString) (args : List Value)
  | query (sql : GoString) (args : List Value)
  | queryCounts (sql : GoString) (args : List Value)
  | scanRow (sql : GoString) (args : List Value)
  | scanCount (sql : GoString) (args : List Value)
  | copyFrom (table : GoString) (columns : List GoString) (rows : List (List Value))

@[reducible] def Statement.Answer (T : Type) : Statement → Type
  | .exec _ _ | .scanCount _ _ | .copyFrom _ _ _ => Except GoError Int
  | .query _ _ => Except GoError (Rows T)
  | .queryCounts _ _ => Except GoError (Rows (Value × Int))
  | .scanRow _ _ => Except GoError (List Value)

def Statement.send (on : Conn) : (s : Statement) → GoProg T (s.Answer T)
  | .exec sql args => ask (.exec on sql args)
  | .query sql args => ask (.query on sql args)
  | .queryCounts sql args => ask (.queryCounts on sql args)
  | .scanRow sql args => ask (.scanRow on sql args)
  | .scanCount sql args => ask (.scanCount on sql args)
  | .copyFrom table columns rows => ask (.copyFrom on table columns rows)

def OnConn (on : Conn) (op : Op) : Prop := conn? op = some on

def Bound (p : BaseDAO → GoProg T α) : Prop := ∀ d : BaseDAO, Performs (OnConn d.db) (p d)

/-- Closures as finite trees: statements on the transaction, on `sqlcx.DB` and through a repository,
with everything that follows a reply, and nested calls whose error may be ignored. A derived context
keeps the transaction. -/
inductive TxClosure : {γ : Type} → (Context → Nat → GoProg T γ) → Prop
  | ret {γ : Type} (a : γ) : TxClosure fun _ _ => pure a
  | bind {γ δ : Type} {p : Context → Nat → GoProg T γ} {q : γ → Context → Nat → GoProg T δ} :
      TxClosure p → (∀ a, TxClosure (q a)) →
      TxClosure fun ctx tx => p ctx tx >>= fun a => q a ctx tx
  | derived {γ : Type} {p : Context → Nat → GoProg T γ} (derive : Context → Context)
      (keeps : ∀ ctx, (derive ctx).tx = ctx.tx) :
      TxClosure p → TxClosure fun ctx tx => p (derive ctx) tx
  | direct (s : Statement) : TxClosure fun _ tx => s.send (.tx tx)
  | sqlcx (s : Statement) : TxClosure fun ctx _ => s.send (sqlcxDB ctx)
  | repository {γ : Type} (b : Base) {p : Context → BaseDAO → GoProg T γ}
      (bound : ∀ ctx, Bound (p ctx)) : TxClosure fun ctx _ => p ctx (b.daoIn ctx)
  | inTransaction {fn : Context → Nat → GoProg T (Option GoError)} :
      TxClosure fn → TxClosure fun ctx _ => inTransaction ctx fn
  | inRetryableTransaction {fn : Context → Nat → GoProg T (Option GoError)}
      (cfg : List TxRetryConfig) :
      TxClosure fn → TxClosure fun ctx _ => inRetryableTransaction ctx fn cfg

theorem inTx_of_onConn {tx : Nat} (op : Op) (h : OnConn (.tx tx) op) : InTx tx op := by
  cases op with
  | begin | finish => cases h
  | ctxErr | backoff | sleep => trivial
  | exec | query | queryCounts | scanRow | scanCount | copyFrom => exact h

theorem performs_send (on : Conn) (s : Statement) :
    Performs (OnConn on) (s.send on : GoProg T (s.Answer T)) := by
  cases s with
  | exec | query | queryCounts | scanRow | scanCount | copyFrom => exact ⟨rfl, fun _ => trivial⟩

theorem TxClosure.inTx {p : Context → Nat → GoProg T α} (h : TxClosure p) {ctx : Context}
    {tx : Nat} (hctx : ctx.tx = some tx) : Performs (InTx tx) (p ctx tx) := by
  induction h generalizing ctx with
  | ret a => trivial
  | bind _ _ ihp ihq => exact performs_bind (ihp hctx) fun a => ihq a hctx
  | derived derive keeps _ ih => exact ih ((keeps ctx).trans hctx)
  | direct s => exact (performs_send (.tx tx) s).mono inTx_of_onConn
  | sqlcx s =>
    have same : sqlcxDB ctx = .tx tx := by simp [sqlcxDB, txFromContext, hctx]
    simp only [same]
    exact (performs_send (.tx tx) s).mono inTx_of_onConn
  | repository b bound =>
    have same : b.daoIn ctx = b.dao.withTx tx := by simp [Base.daoIn, txFromContext, hctx]
    simp only [same]
    exact (bound ctx (b.dao.withTx tx)).mono inTx_of_onConn
  | inTransaction _ ih =>
    simp only [Transactions.inTransaction, txFromContext, hctx]
    exact ih hctx
  | inRetryableTransaction cfg _ ih =>
    simp only [Transactions.inRetryableTransaction, Transactions.inTransaction, txFromContext, hctx]
    exact ih hctx

section Calls

variable (d : BaseDAO)

theorem performs_failure {P : Op → Prop} {p : GoProg T (Result α)} (h : Performs P p) :
    Performs P (failure p) :=
  performs_bind h fun _ => trivial

theorem performs_statement (statement : SqlText × List Value) :
    Performs (OnConn d.db) (d.send statement : GoProg T (Option GoError)) := by
  refine performs_perform_bind rfl fun reply => ?_
  cases reply <;> trivial

theorem performs_updateVersioned (ord : RangeOrder) (set : GoMap Value)
    (conditions : List Condition) (versionCol : GoString) (expected : Int) :
    Performs (OnConn d.db)
      (d.updateVersioned ord set conditions versionCol expected : GoProg T (Result T)) := by
  refine performs_perform_bind rfl fun reply => ?_
  cases reply with
  | error err => trivial
  | ok rows =>
    dsimp only
    split
    · split_ifs <;> trivial
    · trivial

end Calls

/-- Every operation of a DAO sends its statements to the connection of the DAO. -/
theorem call_bound (ord : RangeOrder) (ctx : Context) (call : Call) :
    Bound (fun d => (call.error d ord ctx : GoProg T (Option GoError))) := by
  intro d
  cases call with
  | findByID | findOne | selectOne | insertMap | updateReturning | upsert | finderOne =>
    exact performs_failure (performs_selectOne d rfl)
  | findAll | findAllOrdered | select | finderFind =>
    exact performs_failure (performs_selectMany d rfl)
  | findByIDs ids =>
    refine performs_failure ?_
    unfold BaseDAO.findByIDs
    split_ifs
    · trivial
    · exact performs_selectMany d rfl
  | exec sql args => exact performs_failure (performs_perform_bind rfl fun _ => trivial)
  | count => exact performs_failure (performs_scanCountOf d rfl)
  | countBy column conditions =>
    refine performs_failure (performs_perform_bind rfl fun reply => ?_)
    cases reply <;> trivial
  | existsRow => exact performs_failure (performs_bind (performs_selectOne d rfl) fun _ => trivial)
  | findPage conditions orderBy limit offset =>
    exact performs_failure (Finder.performs_page
      { dao := d, conditions, orderBy, limit, offset } rfl fun _ _ => rfl)
  | insert | update | hardDelete => exact performs_statement d _
  | insertIgnore columns values conflictColumn =>
    refine performs_failure ?_
    unfold BaseDAO.insertIgnore
    split_ifs
    · trivial
    · refine performs_perform_bind rfl fun reply => ?_
      cases reply <;> trivial
  | insertReturning columns values returning =>
    refine performs_failure (performs_perform_bind rfl fun reply => ?_)
    cases reply <;> trivial
  | insertMany columns rows =>
    simp only [Call.error, BaseDAO.insertMany]
    split
    · trivial
    · trivial
    · exact performs_statement d _
  | copyFrom columns rows =>
    refine performs_failure ?_
    unfold BaseDAO.copyFrom
    split_ifs
    · exact performs_perform_bind rfl fun _ => trivial
    · trivial
  | updateVersioned => exact performs_failure (performs_updateVersioned d ord _ _ _ _)
  | updateByIDs | deleteByIDs =>
    simp only [Call.error, BaseDAO.updateByIDs, BaseDAO.deleteByIDs]
    split_ifs
    · trivial
    · exact performs_statement d _
  | softDelete id =>
    refine performs_perform_bind rfl fun reply => ?_
    cases reply <;> trivial
  | restore id =>
    simp only [Call.error, BaseDAO.restore]
    split_ifs
    · trivial
    · exact performs_statement d.toUnscoped _
  | finderCount f => exact performs_failure (Finder.performs_count { f with dao := d } rfl)
  | finderExists f => exact performs_failure (Finder.performs_existsRow { f with dao := d } rfl)
  | finderPage f =>
    exact performs_failure (Finder.performs_page { f with dao := d } rfl fun _ _ => rfl)

end DxCommonGo.TxClosures
