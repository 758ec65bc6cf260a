import DxCommonGo.TxLifecycle

/-! A transactional database behind the pool. A transaction works on a copy of the committed state,
which Commit installs; a failed statement aborts it. Effects and answers of statements are
parameters. -/

namespace DxCommonGo.TxDatabase
open DxErrors Programs PgxPool

variable {T σ ρ α : Type}

def conn? : Op → Option Conn
  | .begin | .finish _ _ | .ctxErr | .backoff _ _ | .sleep _ => none
  | .exec on _ _ | .query on _ _ | .queryCounts on _ _ | .scanRow on _ _ | .scanCount on _ _
  | .copyFrom on _ _ _ => some on

def isBegin : Op → Bool
  | .begin => true
  | _ => false

def isStatement (op : Op) : Bool := (conn? op).isSome

def onTx (tx : Nat) (op : Op) : Bool := conn? op = some (.tx tx)

/-- What a closure may do with its transaction: send statements on it and wait,
but neither begin nor finish one. -/
def InTx (tx : Nat) : Op → Prop
  | .begin | .finish _ _ => False
  | .ctxErr | .backoff _ _ | .sleep _ => True
  | op => conn? op = some (.tx tx)

/-- The parameters: the effect of a statement, `none` when it fails on the
server, and the answers the environment gives. -/
structure Db (T σ ρ : Type) where
  effect : Op → σ → Option σ
  begin : ρ → Option GoError × ρ
  commit : ρ → Option GoError × ρ
  rollback : ρ → Option GoError × ρ
  reply : (op : Op) → Option σ → ρ → Reply T op × ρ
  aborted : GoError

/-- The committed state, the copy of each transaction (`none` once aborted), those that committed,
and the environment. -/
structure DbState (σ ρ : Type) where
  committed : σ
  working : List (Option σ)
  log : List Nat
  env : ρ

def Db.apply (db : Db T σ ρ) (ops : List Op) (s : Option σ) : Option σ :=
  ops.foldl (fun s op => s.bind (db.effect op)) s

def Db.perform (db : Db T σ ρ) (op : Op) (s : DbState σ ρ) : DbState σ ρ :=
  match conn? op with
  | none => s
  | some (.tx tx) => { s with working := s.working.modify tx fun copy => copy.bind (db.effect op) }
  | some _ => { s with committed := (db.effect op s.committed).getD s.committed }

def DbState.seen (s : DbState σ ρ) (op : Op) : Option σ :=
  match conn? op with
  | none => none
  | some (.tx tx) => (s.working[tx]?).join
  | some _ => some s.committed

def Db.commitTx (db : Db T σ ρ) (tx : Nat) (s : DbState σ ρ) : Option GoError × DbState σ ρ :=
  match (s.working[tx]?).join with
  | none => (some db.aborted, s)
  | some copy =>
    match db.commit s.env with
    | (some err, env) => (some err, { s with env })
    | (none, env) => (none, { s with committed := copy, log := s.log ++ [tx], env })

def Db.server (db : Db T σ ρ) : Server T (DbState σ ρ) where
  begin s :=
    match db.begin s.env with
    | (some err, env) => (some err, { s with env })
    | (none, env) => (none, { s with working := s.working ++ [some s.committed], env })
  finish how tx s :=
    match how with
    | .commit => db.commitTx tx s
    | .rollback => ((db.rollback s.env).1, { s with env := (db.rollback s.env).2 })
  answer op s :=
    let p := db.reply op (s.seen op) s.env
    (p.1, { db.perform op s with env := p.2 })

def Ready (w : World (DbState σ ρ)) : Prop := w.server.working.length = w.txs.length

def frame (w : World (DbState σ ρ)) : List PgTx × σ × List Nat × Nat :=
  (w.txs, w.server.committed, w.server.log, w.server.working.length)

def copyOf (tx : Nat) (w : World (DbState σ ρ)) : Option σ := (w.server.working[tx]?).join

variable {tx : Nat}

theorem handler_inTx (S : Server T (DbState σ ρ)) {op : Op} (hop : InTx tx op)
    (w : World (DbState σ ρ)) : handler S op w = askServer S op w := by
  cases op with
  | begin | finish => exact hop.elim
  | exec | query | queryCounts | scanRow | scanCount | copyFrom | ctxErr | backoff | sleep => rfl

theorem conn_inTx {op : Op} (hop : InTx tx op) : conn? op = none ∨ conn? op = some (.tx tx) := by
  cases op with
  | begin | finish | ctxErr | backoff | sleep => exact .inl rfl
  | exec | query | queryCounts | scanRow | scanCount | copyFrom => exact .inr hop

variable (db : Db T σ ρ)

theorem frame_step {op : Op} (hop : InTx tx op) (w : World (DbState σ ρ)) :
    frame (handler db.server op w).2 = frame w := by
  rw [handler_inTx db.server hop]
  rcases conn_inTx hop with hconn | hconn <;>
    simp [askServer, Db.server, Db.perform, hconn, frame]

def Db.stepOn (db : Db T σ ρ) (copy : Option σ) (op : Op) : Option σ :=
  if isStatement op then copy.bind (db.effect op) else copy

theorem copyOf_step {op : Op} (hop : InTx tx op) (w : World (DbState σ ρ)) :
    copyOf tx (handler db.server op w).2 = db.stepOn (copyOf tx w) op := by
  rw [handler_inTx db.server hop]
  rcases conn_inTx hop with hconn | hconn
  · simp [askServer, Db.server, Db.perform, Db.stepOn, isStatement, hconn, copyOf]
  · simp only [askServer, Db.server, Db.perform, Db.stepOn, isStatement, hconn, copyOf,
      Option.isSome_some, if_true, List.getElem?_modify_eq]
    cases w.server.working[tx]? with
    | none => rfl
    | some copy => rfl

theorem foldl_stepOn (ops : List Op) (copy : Option σ) :
    ops.foldl db.stepOn copy = db.apply (ops.filter isStatement) copy := by
  induction ops generalizing copy with
  | nil => rfl
  | cons op ops ih =>
    rw [List.foldl_cons, ih, List.filter_cons, Db.stepOn]
    split_ifs <;> rfl

/-- A program inside a transaction changes nothing but the copy, to which it
applies its statements in the order it sends them. -/
theorem run_inTx {p : GoProg T α} (hp : Performs (InTx tx) p) (w : World (DbState σ ρ)) :
    frame (run (handler db.server) p w).2 = frame w ∧
    copyOf tx (run (handler db.server) p w).2 =
      db.apply ((trace (handler db.server) p w).filter isStatement) (copyOf tx w) := by
  constructor
  · have kept := hp.run_observed frame (fun x _ => x) (fun op w hop => frame_step db hop w) w
    rw [kept]
    induction trace (handler db.server) p w with
    | nil => rfl
    | cons op ops ih => exact ih
  · rw [← foldl_stepOn]
    exact hp.run_observed (copyOf tx) db.stepOn (fun op w hop => copyOf_step db hop w) w

end DxCommonGo.TxDatabase
