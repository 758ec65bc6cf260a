import DxCommonGo.DxErrors
import DxCommonGo.Programs
import DxCommonGo.QueryModel

/-! The driver as the code sees it. What the server answers is a parameter; the bookkeeping is what
`pgxpool.Tx` documents: the first Commit or Rollback closes the transaction and gives its connection
back, and any later one returns `ErrTxClosed`. -/

namespace DxCommonGo.PgxPool
open GoStrings GoErrors DxErrors QueryModel Programs

inductive Finish where
  | commit | rollback
  deriving DecidableEq, Repr

/-- Some pooled connection, a transaction, or another querier of the caller's, which has no
`CopyFrom`. -/
inductive Conn where
  | pool
  | tx (id : Nat)
  | querier (id : Nat)
  deriving DecidableEq

def Conn.isCopier : Conn → Bool
  | .pool | .tx _ => true
  | .querier _ => false

structure Rows (T : Type) where
  rows : List (Except GoError T)
  err : Option GoError

inductive Op where
  | begin
  | finish (how : Finish) (tx : Nat)
  | exec (on : Conn) (sql : GoString) (args : List Value)
  | query (on : Conn) (sql : GoString) (args : List Value)
  | queryCounts (on : Conn) (sql : GoString) (args : List Value)
  | scanRow (on : Conn) (sql : GoString) (args : List Value)
  | scanCount (on : Conn) (sql : GoString) (args : List Value)
  | copyFrom (on : Conn) (table : GoString) (columns : List GoString) (rows : List (List Value))
  | ctxErr
  | backoff (baseDelay : Int) (attempt : Nat)
  | sleep (delay : Int)

@[reducible] def Reply (T : Type) : Op → Type
  | .begin => Except GoError Nat
  | .finish _ _ => Option GoError
  | .exec _ _ _ => Except GoError Int
  | .query _ _ _ => Except GoError (Rows T)
  | .queryCounts _ _ _ => Except GoError (Rows (Value × Int))
  | .scanRow _ _ _ => Except GoError (List Value)
  | .scanCount _ _ _ => Except GoError Int
  | .copyFrom _ _ _ _ => Except GoError Int
  | .ctxErr => Option GoError
  | .backoff _ _ => Int
  | .sleep _ => Option GoError

abbrev GoProg (T α : Type) := Prog Op (Reply T) α

abbrev ask {T : Type} (op : Op) : GoProg T (Reply T op) := perform op

/-- One `pgxpool.Tx`: whether it is closed and holds its connection, which
calls ended it, and all calls of Commit and Rollback on it. -/
structure PgTx where
  closed : Bool
  connHeld : Bool
  ended : List Finish
  calls : List Finish
  whenOpen : closed = false → connHeld = true ∧ ended = []
  whenClosed : closed = true → connHeld = false ∧ ended.length = 1

def PgTx.new : PgTx := ⟨false, true, [], [], by simp, by simp⟩

def PgTx.finish (how : Finish) (t : PgTx) : PgTx :=
  if h : t.closed = true then
    { t with calls := t.calls ++ [how] }
  else
    { closed := true, connHeld := false, ended := t.ended ++ [how], calls := t.calls ++ [how]
      whenOpen := by simp
      whenClosed := by simp [(t.whenOpen (by simpa using h)).2] }

structure World (ω : Type) where
  server : ω
  txs : List PgTx

structure Server (T ω : Type) where
  begin : ω → Option GoError × ω
  finish : Finish → Nat → ω → Option GoError × ω
  answer : (op : Op) → ω → Reply T op × ω

def errTxClosed : GoError := leaf (.sentinel .txClosed)

def errNoRows : GoError := leaf (.sentinel .noRows)

variable {T ω : Type}

def collectOneRow (r : Rows T) : Except GoError T :=
  match r.rows with
  | [] => .error (r.err.getD errNoRows)
  | row :: _ => row.bind fun value => r.err.elim (.ok value) .error

def collectRows (r : Rows T) : Except GoError (List T) :=
  (r.rows.mapM id).bind fun values => r.err.elim (.ok values) .error

def beginTx (S : Server T ω) (w : World ω) : Except GoError Nat × World ω :=
  match S.begin w.server with
  | (some err, s) => (.error err, { w with server := s })
  | (none, s) => (.ok w.txs.length, ⟨s, w.txs ++ [PgTx.new]⟩)

def finishTx (S : Server T ω) (how : Finish) (tx : Nat) (w : World ω) :
    Option GoError × World ω :=
  match w.txs[tx]? with
  | none => (some errTxClosed, w)
  | some t =>
    let txs := w.txs.set tx (t.finish how)
    if t.closed then (some errTxClosed, { w with txs := txs })
    else
      let p := S.finish how tx w.server
      (p.1, ⟨p.2, txs⟩)

def askServer (S : Server T ω) (op : Op) (w : World ω) : Reply T op × World ω :=
  let p := S.answer op w.server
  (p.1, { w with server := p.2 })

def handler (S : Server T ω) : Handler Op (Reply T) (World ω)
  | .begin, w => beginTx S w
  | .finish how tx, w => finishTx S how tx w
  | .exec on sql args, w => askServer S (.exec on sql args) w
  | .query on sql args, w => askServer S (.query on sql args) w
  | .queryCounts on sql args, w => askServer S (.queryCounts on sql args) w
  | .scanRow on sql args, w => askServer S (.scanRow on sql args) w
  | .scanCount on sql args, w => askServer S (.scanCount on sql args) w
  | .copyFrom on table columns rows, w => askServer S (.copyFrom on table columns rows) w
  | .ctxErr, w => askServer S .ctxErr w
  | .backoff base attempt, w => askServer S (.backoff base attempt) w
  | .sleep delay, w => askServer S (.sleep delay) w

theorem run_ask_bind {α : Type} (S : Server T ω) (op : Op) (f : Reply T op → GoProg T α)
    (w : World ω) :
    run (handler S) (ask op >>= f) w =
      run (handler S) (f (handler S op w).1) (handler S op w).2 := rfl

theorem run_ask {α : Type} {S : Server T ω} {op : Op} {w w' : World ω} {reply : Reply T op}
    (h : handler S op w = (reply, w')) (f : Reply T op → GoProg T α) :
    run (handler S) (ask op >>= f) w = run (handler S) (f reply) w' := by
  rw [run_ask_bind, h]

end DxCommonGo.PgxPool
