import DxCommonGo.AmqpBroker
import DxCommonGo.RelyGuarantee

/-! `ReliablePublisher` of package `rabbitmq`, whose calls of `Publish` interleave with each other
and with losses. The broker accepts every dial and every message on an open channel. The state keeps
a record. -/

namespace DxCommonGo.ReliablePublisher
open AmqpBroker (errClosed errClosedValue)
open GoStrings GoErrors DxErrors Programs Threads RelyGuarantee

structure PublisherConfig where
  exchange : GoString
  exchangeType : GoString
  confirms : Bool

structure Message where
  exchange : GoString
  routingKey : GoString
  messageId : GoString
  body : GoString

inductive Confirm where
  | acked
  | nacked
  | ctxDone (err : GoError)

inductive Request where
  | openChannel
  | confirmMode
  | exchangeDeclare (name kind : GoString)

/-- `readCh` and `install` are the critical sections of `publishOnce` and `dial`;
`install` returns the connection it replaces. -/
inductive Op where
  | readCh
  | publish (ch : Nat) (m : Message)
  | awaitConfirm (ch : Nat)
  | dial
  | request (conn : Nat) (r : Request)
  | install (conn : Nat)
  | chClose (ch : Nat)
  | connClose (conn : Nat)

@[reducible] def Reply : Op → Type
  | .readCh => Option Nat
  | .publish _ _ => Option GoError
  | .awaitConfirm _ => Confirm
  | .dial => Except GoError Nat
  | .request _ _ => Option GoError
  | .install _ => Option Nat
  | .chClose _ => Unit
  | .connClose _ => Unit

abbrev PubProg (α : Type) := Prog Op Reply α

def ask (op : Op) : PubProg (Reply op) := perform op

def waitConfirmed (ch : Nat) : PubProg (Option GoError) := do
  let confirm : Confirm ← ask (.awaitConfirm ch)
  match confirm with
  | .acked => return none
  | .nacked =>
    return some (errorsNew (str "rabbitmq publisher: broker nacked message (exchange=%q key=%q)"))
  | .ctxDone err => return some (errorf (str "rabbitmq publisher: confirm wait: %w") err)

def publishOnce (cfg : PublisherConfig) (m : Message) : PubProg (Option GoError) := do
  let current : Option Nat ← ask .readCh
  match current with
  | none => return some errClosed
  | some ch =>
    let refused : Option GoError ← ask (.publish ch m)
    match refused with
    | some err => return some err
    | none => if cfg.confirms then waitConfirmed ch else return none

def abandon (conn : Nat) (err : GoError) : PubProg (Option GoError) := do
  ask (.chClose conn)
  ask (.connClose conn)
  return some err

def replaceConn (conn : Nat) : PubProg (Option GoError) := do
  let old : Option Nat ← ask (.install conn)
  match old with
  | none => return none
  | some c =>
    ask (.connClose c)
    return none

def declareExchange (cfg : PublisherConfig) (conn : Nat) : PubProg (Option GoError) := do
  if cfg.exchange = [] then replaceConn conn
  else
    let kind := if cfg.exchangeType = [] then str "topic" else cfg.exchangeType
    let failed : Option GoError ← ask (.request conn (.exchangeDeclare cfg.exchange kind))
    match failed with
    | some err => abandon conn (errorf (str "declare exchange %q: %w") err)
    | none => replaceConn conn

def dial (cfg : PublisherConfig) : PubProg (Option GoError) := do
  let dialled : Except GoError Nat ← ask .dial
  match dialled with
  | .error err => return some (errorf (str "dial rabbitmq: %w") err)
  | .ok conn =>
    let failed : Option GoError ← ask (.request conn .openChannel)
    match failed with
    | some err =>
      ask (.connClose conn)
      return some (errorf (str "open channel: %w") err)
    | none =>
      if cfg.confirms then
        let failed : Option GoError ← ask (.request conn .confirmMode)
        match failed with
        | some err => abandon conn (errorf (str "enable publisher confirms: %w") err)
        | none => declareExchange cfg conn
      else declareExchange cfg conn

def isChannelClosedErr : GoError → Bool
  | .node (.other _ text) _ =>
    text = str "channel/connection is not open" ||
      text = str "Exception (504) Reason: \"channel/connection is not open\""
  | _ => false

def publishWithRetry (cfg : PublisherConfig) (m : Message) : PubProg (Option GoError) := do
  match ← publishOnce cfg m with
  | none => return none
  | some err =>
    if errorsIs err errClosedValue || isChannelClosedErr err then
      match ← dial cfg with
      | some derr => return some (errorf (str "redial after publish failure: %w") derr)
      | none =>
        match ← publishOnce cfg m with
        | some err2 => return some (errorf (str "publish after redial: %w") err2)
        | none => return none
    else return some err

inductive Happening where
  | redial (i c : Nat)
  | installed (i c : Nat)
  | published (i c : Nat)
  | expired (i : Nat)
  | lost (c : Nat)
  | closed (c : Nat)
  deriving DecidableEq

/-- The connections, dialled in order and each by a call, except one by the constructor; the fields
of the publisher; and the record. -/
structure World where
  dialled : Nat
  owner : Nat → Option Nat
  isOpen : Nat → Bool
  conn : Option Nat
  ch : Option Nat
  log : List Happening := []

def World.record (w : World) (h : Happening) : World := { w with log := w.log ++ [h] }

def World.drop (w : World) (c : Nat) : World :=
  { w with isOpen := Function.update w.isOpen c false }

def World.add (w : World) (i : Nat) : World :=
  { w with
    dialled := w.dialled + 1
    owner := Function.update w.owner w.dialled (some i)
    isOpen := Function.update w.isOpen w.dialled true }

inductive Choice where
  | proceed
  | acks
  | nacks
  | expires (err : GoError)

def World.onChannel (w : World) (c : Nat) : Option GoError :=
  if w.isOpen c then none else some errClosed

def answer (i : Nat) : (op : Op) → Choice → World → Option (Reply op × World)
  | .readCh, .proceed, w => some (w.ch, w)
  | .publish ch _, .proceed, w =>
    some (w.onChannel ch, if w.isOpen ch then w.record (.published i ch) else w)
  | .awaitConfirm _, .acks, w => some (.acked, w)
  | .awaitConfirm ch, .nacks, w => if w.isOpen ch then none else some (.nacked, w)
  | .awaitConfirm _, .expires err, w => some (.ctxDone err, w.record (.expired i))
  | .dial, .proceed, w => some (.ok w.dialled, (w.add i).record (.redial i w.dialled))
  | .request c _, .proceed, w => some (w.onChannel c, w)
  | .install c, .proceed, w =>
    some (w.conn, { w with conn := some c, ch := some c }.record (.installed i c))
  | .chClose _, .proceed, w => some ((), w)
  | .connClose c, .proceed, w =>
    some ((), if w.isOpen c then (w.drop c).record (.closed c) else w)
  | _, _, _ => none

structure Loss where
  conn : Nat

def act (e : Loss) (w : World) : Option World :=
  if w.isOpen e.conn then some ((w.drop e.conn).record (.lost e.conn)) else none

def env : Env Nat Op Reply (Option GoError) Choice Loss World := ⟨answer, act, fun _ _ => none⟩

def newReliablePublisher (connected : Bool) : World :=
  { dialled := 1
    owner := fun _ => none
    isOpen := fun c => connected && c == 0
    conn := if connected then some 0 else none
    ch := if connected then some 0 else none }

def start (cfg : PublisherConfig) (messages : Nat → Message) (connected : Bool) :
    System Nat Op Reply (Option GoError) World :=
  ⟨fun i => publishWithRetry cfg (messages i), newReliablePublisher connected⟩

end DxCommonGo.ReliablePublisher
