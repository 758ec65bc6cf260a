import DxCommonGo.PgxPool

/-! Package `outbox`: the Postgres store of events and the dispatcher that drains it through three
calls. `Phase` is the place in `drain` a dispatcher has reached: what is left of a drain depends on
it alone. -/

namespace DxCommonGo.Outbox
open GoStrings DxErrors QueryModel Programs PgxPool

/-- A UUID is the number it encodes; times are in nanoseconds. -/
structure Row where
  id : Nat
  action : GoString
  payload : GoString
  requestID : GoString
  createdAt : Int
  attempts : Nat
  deriving DecidableEq

structure PGStore where
  table : GoString

namespace PGStore

variable (s : PGStore)

def uuid (id : Nat) : Value := .other (str "uuid.UUID") (itoaNat id)

def insert (tx id : Nat) (action payload requestID : GoString) : GoProg Row (Option GoError) := do
  let sql := str "INSERT INTO " ++ s.table ++
    str " (id, action, payload, request_id) VALUES ($1, $2, $3, $4)"
  let args := [uuid id, .str action, .other (str "[]byte") payload, .str requestID]
  match ← ask (.exec (.tx tx) sql args) with
  | .error err => return some (errorf (str "outbox: insert: %w") err)
  | .ok _ => return none

def fetchUnsentSQL : GoString :=
  str "\n\t\tWITH claimed AS (\n\t\t\tSELECT id FROM " ++ s.table ++
  str "\n\t\t\t WHERE sent_at IS NULL\n\t\t\t ORDER BY created_at\n\t\t\t LIMIT $1" ++
  str "\n\t\t\t FOR UPDATE SKIP LOCKED\n\t\t)\n\t\tUPDATE " ++ s.table ++
  str " o\n\t\t   SET attempts = o.attempts + 1\n\t\t  FROM claimed c\n\t\t WHERE o.id = c.id" ++
  str "\n\t\tRETURNING o.id, o.action, o.payload, o.request_id, o.created_at, o.attempts\n\t"

/-- `FetchUnsent`; the rows before an error of the result are dropped, as its
callers do. -/
def fetchUnsent (limit : Int) : GoProg Row (Except GoError (List Row)) := do
  match ← ask (.query .pool s.fetchUnsentSQL [.int limit]) with
  | .error err => return .error (errorf (str "outbox: fetch unsent: %w") err)
  | .ok rows =>
    match rows.rows.mapM id with
    | .error err => return .error (errorf (str "outbox: scan row: %w") err)
    | .ok out => return rows.err.elim (.ok out) .error

def markSent (id : Nat) : GoProg Row (Option GoError) := do
  let sql := str "UPDATE " ++ s.table ++ str " SET sent_at = NOW() WHERE id = $1"
  match ← ask (.exec .pool sql [uuid id]) with
  | .error err => return some (errorf (str "outbox: mark sent: %w") err)
  | .ok _ => return none

end PGStore

structure Dispatcher where
  interval : Int := 5 * 10 ^ 9
  batch : Int := 100

inductive Call where
  | fetchUnsent (limit : Int)
  | publish (row : Row)
  | markSent (id : Nat)

@[reducible] def Reply : Call → Type
  | .fetchUnsent _ => Except GoError (List Row)
  | .publish _ => Option GoError
  | .markSent _ => Option GoError

abbrev OutboxProg (α : Type) := Prog Call Reply α

abbrev invoke (call : Call) : OutboxProg (Reply call) := perform call

/-- The loop over the rows of a batch: whether it ran to its end. -/
def publishAll : List Row → OutboxProg Bool
  | [] => return true
  | row :: rest => do
    match ← invoke (.publish row) with
    | some _ => return false
    | none =>
      match ← invoke (.markSent row.id) with
      | some _ => return false
      | none => publishAll rest

/-- The first `fuel` iterations of the loop of `drain`. The result says whether
an error ended it; a drain that goes on has none. -/
def drain (d : Dispatcher) : Nat → OutboxProg (Option Bool)
  | 0 => return none
  | fuel + 1 => do
    match ← invoke (.fetchUnsent d.batch) with
    | .error _ => return some true
    | .ok rows =>
      if rows.isEmpty then return some false
      else if ← publishAll rows then
        if (rows.length : Int) < d.batch then return some false else drain d fuel
      else return some true

/-- Outside `drain`, with how the last drain ended, or before a call in it. `full` is what the test
after the loop will find. -/
inductive Phase where
  | idle (failed : Bool)
  | fetching
  | publishing (row : Row) (rest : List Row) (full : Bool)
  | marking (row : Row) (rest : List Row) (full : Bool)
  deriving DecidableEq

namespace Phase

def afterFetch (d : Dispatcher) : Except GoError (List Row) → Phase
  | .error _ => .idle true
  | .ok [] => .idle false
  | .ok (row :: rest) => .publishing row rest (d.batch ≤ (row :: rest).length)

def next (full : Bool) : List Row → Phase
  | [] => if full then .fetching else .idle false
  | row :: rest => .publishing row rest full

def afterPublish (row : Row) (rest : List Row) (full : Bool) : Option GoError → Phase
  | some _ => .idle true
  | none => .marking row rest full

def afterMark (rest : List Row) (full : Bool) : Option GoError → Phase
  | some _ => .idle true
  | none => next full rest

def held : Phase → List Row
  | .idle _ | .fetching => []
  | .publishing row rest _ | .marking row rest _ => row :: rest

def unpublished : Phase → List Row
  | .idle _ | .fetching => []
  | .publishing row rest _ => row :: rest
  | .marking _ rest _ => rest

@[simp] theorem held_afterFetch (d : Dispatcher) (rows : List Row) :
    (afterFetch d (.ok rows)).held = rows := by
  cases rows <;> rfl

@[simp] theorem held_next (full : Bool) (rest : List Row) : (next full rest).held = rest := by
  cases rest with
  | nil => cases full <;> rfl
  | cons row rest => rfl

@[simp] theorem unpublished_afterFetch (d : Dispatcher) (rows : List Row) :
    (afterFetch d (.ok rows)).unpublished = rows := by
  cases rows <;> rfl

@[simp] theorem unpublished_next (full : Bool) (rest : List Row) :
    (next full rest).unpublished = rest := by
  cases rest with
  | nil => cases full <;> rfl
  | cons row rest => rfl

theorem mem_held {p : Phase} {r : Row} (h : r ∈ p.unpublished) : r ∈ p.held := by
  cases p with
  | idle | fetching => exact h
  | publishing row rest full => exact h
  | marking row rest full => exact List.mem_cons_of_mem row h

theorem afterFetch_ne_marking (d : Dispatcher) (r : Except GoError (List Row)) {row : Row}
    {rest : List Row} {full : Bool} : afterFetch d r ≠ .marking row rest full := by
  unfold afterFetch
  split <;> simp

theorem next_ne_marking (full' : Bool) (rows : List Row) {row : Row} {rest : List Row}
    {full : Bool} : next full' rows ≠ .marking row rest full := by
  cases rows with
  | nil => cases full' <;> simp [next]
  | cons row rest => simp [next]

def isLast : Phase → Bool
  | .idle failed => !failed
  | .fetching => false
  | .publishing _ _ full | .marking _ _ full => !full

@[simp] theorem isLast_next (full : Bool) (rest : List Row) : (next full rest).isLast = !full := by
  cases rest with
  | nil => cases full <;> rfl
  | cons row rest => rfl

theorem isLast_afterFetch {d : Dispatcher} {rows : List Row} (hbatch : 1 ≤ d.batch)
    (h : (afterFetch d (.ok rows)).isLast = true) : (rows.length : Int) < d.batch := by
  cases rows with
  | nil =>
    simp only [List.length_nil]
    omega
  | cons row rest => simpa [afterFetch, isLast] using h

def remaining (d : Dispatcher) (fuel : Nat) : Phase → OutboxProg (Option Bool)
  | .idle failed => return some failed
  | .fetching => drain d fuel
  | .publishing row rest full => do
    if ← publishAll (row :: rest) then
      if full then drain d fuel else return some false
    else return some true
  | .marking row rest full => do
    match ← invoke (.markSent row.id) with
    | some _ => return some true
    | none =>
      if ← publishAll rest then
        if full then drain d fuel else return some false
      else return some true

end Phase

section Small

variable (d : Dispatcher) (fuel : Nat) (row : Row) (rest : List Row) (full : Bool)

theorem remaining_next :
    (do
      if ← publishAll rest then
        if full then drain d fuel else return some false
      else return some true) = (Phase.next full rest).remaining d fuel := by
  cases rest with
  | nil => cases full <;> rfl
  | cons row rest => rfl

/-- A drain is, at each phase, the call made there followed by what is left at
the phase that the reply leads to. -/
theorem remaining_fetching :
    Phase.fetching.remaining d (fuel + 1) =
      .call (.fetchUnsent d.batch) fun r => (Phase.afterFetch d r).remaining d fuel := by
  simp only [Phase.remaining, drain]
  refine congrArg (Prog.call _) ?_
  funext r
  cases r with
  | error err => rfl
  | ok rows =>
    cases rows with
    | nil => rfl
    | cons row rest =>
      refine congrArg (publishAll (row :: rest) >>= ·) ?_
      funext done
      simp only [decide_eq_true_eq]
      split_ifs <;> first | rfl | omega

theorem remaining_publishing :
    (Phase.publishing row rest full).remaining d fuel =
      .call (.publish row) fun r => (Phase.afterPublish row rest full r).remaining d fuel := by
  refine congrArg (Prog.call _) ?_
  funext r
  cases r with
  | some err => rfl
  | none =>
    refine congrArg (Prog.call _) ?_
    funext r
    cases r with
    | some err => rfl
    | none => rfl

theorem remaining_marking :
    (Phase.marking row rest full).remaining d fuel =
      .call (.markSent row.id) fun r => (Phase.afterMark rest full r).remaining d fuel := by
  refine congrArg (Prog.call _) ?_
  funext r
  cases r with
  | some err => rfl
  | none => exact remaining_next d fuel rest full

end Small

end DxCommonGo.Outbox
