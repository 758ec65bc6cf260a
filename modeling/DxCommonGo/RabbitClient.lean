import DxCommonGo.AmqpBroker
import DxCommonGo.RelyGuarantee

/-! `Client` of package `rabbitmq`: the reconnect loop and `Close`, interleaved with the loss of
connections. A notification registered on a connection that is already gone is a closed channel, as
after a deliberate close. -/

namespace DxCommonGo.RabbitClient
open AmqpBroker (errClosed)
open GoStrings DxErrors Programs Threads RelyGuarantee

def second : Int64 := 1000000000

def reconnectDelay (configured : Int64) : Int64 :=
  if configured = 0 then 5 * second else configured

def backoff (delay : Int64) : Int64 :=
  if delay * 2 > 60 * second then 60 * second else delay * 2

/-- A registered notification: its connection, and whether that was still open. -/
structure Notify where
  conn : Nat
  live : Bool

inductive Signal where
  | done
  | notified
  | closed
  deriving DecidableEq

inductive Wake where
  | done
  | elapsed
  deriving DecidableEq

/-- `install` and `register` are the critical sections of `connect` and of the
loop; `lock` returns the fields that `Close` finds in its own. -/
inductive Op where
  | dial
  | openChannel (conn : Nat)
  | connClose (conn : Nat)
  | channelClose (channel : Nat)
  | install (conn : Nat)
  | register
  | selectClose (n : Notify)
  | selectAfter (delay : Int64)
  | closeDone
  | lock
  | unlock

@[reducible] def Reply : Op → Type
  | .dial => Except GoError Nat
  | .openChannel _ => Option GoError
  | .connClose _ => Option GoError
  | .channelClose _ => Option GoError
  | .install _ => Unit
  | .register => Option Notify
  | .selectClose _ => Signal
  | .selectAfter _ => Wake
  | .closeDone => Unit
  | .lock => Option Nat × Option Nat
  | .unlock => Unit

abbrev ClientProg (α : Type) := Prog Op Reply α

def ask (op : Op) : ClientProg (Reply op) := perform op

def connect : ClientProg (Option GoError) := do
  let dialled : Except GoError Nat ← ask .dial
  match dialled with
  | .error err => return some (errorf (str "dial: %w") err)
  | .ok conn =>
    let failed : Option GoError ← ask (.openChannel conn)
    match failed with
    | some err =>
      let _ ← ask (.connClose conn)
      return some (errorf (str "open channel: %w") err)
    | none =>
      ask (.install conn)
      return none

inductive Label where
  | outer
  | inner (delay : Int64)

inductive Stop where
  | goOn (next : Label)
  | exited
  | closed (err : Option GoError)

/-- One turn of a loop. A nil connection is a nil pointer. -/
def reconnectLoop (configured : Int64) : Label → ClientProg Stop
  | .outer => do
    let registered : Option Notify ← ask .register
    match registered with
    | none => .panic
    | some notifyClose =>
      let signal : Signal ← ask (.selectClose notifyClose)
      match signal with
      | .done => return .exited
      | .closed => return .exited
      | .notified => return .goOn (.inner (reconnectDelay configured))
  | .inner delay => do
    let woken : Wake ← ask (.selectAfter delay)
    match woken with
    | .done => return .exited
    | .elapsed =>
      match ← connect with
      | some _ => return .goOn (.inner (backoff delay))
      | none => return .goOn .outer

def closeConn : Option Nat → ClientProg (Option GoError)
  | some conn => ask (.connClose conn)
  | none => return none

def close : ClientProg Stop := do
  ask .closeDone
  let fields : Option Nat × Option Nat ← ask .lock
  match fields.1 with
  | some channel =>
    let _ ← ask (.channelClose channel)
    let err ← closeConn fields.2
    ask .unlock
    return .closed err
  | none =>
    let err ← closeConn fields.2
    ask .unlock
    return .closed err

inductive Status where
  | open
  | lost
  | closed
  deriving DecidableEq

/-- The connections, dialled in order, and the fields of the client. `missed`: a registration found
its connection gone; `closing`: `Close` has entered its critical section; `late`: a connection was
installed after it. -/
structure World where
  dialled : Nat
  status : Nat → Status
  conn : Option Nat
  channel : Option Nat
  done : Bool := false
  locked : Bool := false
  missed : Bool := false
  closing : Bool := false
  late : Bool := false

def World.setStatus (w : World) (c : Nat) (s : Status) : World :=
  { w with status := Function.update w.status c s }

inductive Choice where
  | proceed
  | fails (err : GoError)
  | hears (signal : Signal)
  | wakes (wake : Wake)

def answer : (op : Op) → Choice → World → Option (Reply op × World)
  | .dial, .proceed, w =>
    some (.ok w.dialled, { w.setStatus w.dialled .open with dialled := w.dialled + 1 })
  | .dial, .fails err, w => some (.error err, w)
  | .openChannel c, .proceed, w => if w.status c = .open then some (none, w) else none
  | .openChannel _, .fails err, w => some (some err, w)
  | .connClose c, .proceed, w =>
    if w.status c = .open then some (none, w.setStatus c .closed) else some (some errClosed, w)
  | .channelClose _, .proceed, w => some (none, w)
  | .channelClose _, .fails err, w => some (some err, w)
  | .install c, .proceed, w =>
    if w.locked then none
    else some ((), { w with conn := some c, channel := some c, late := w.late || w.closing })
  | .register, .proceed, w =>
    if w.locked then none
    else
      match w.conn with
      | none => some (none, w)
      | some c =>
        let live := decide (w.status c = .open)
        some (some ⟨c, live⟩, { w with missed := w.missed || !live })
  | .selectClose _, .hears .done, w => if w.done then some (.done, w) else none
  | .selectClose n, .hears .notified, w =>
    if n.live = true ∧ w.status n.conn = .lost then some (.notified, w) else none
  | .selectClose n, .hears .closed, w =>
    if n.live = false ∨ w.status n.conn = .closed then some (.closed, w) else none
  | .selectAfter _, .wakes .done, w => if w.done then some (.done, w) else none
  | .selectAfter _, .wakes .elapsed, w => some (.elapsed, w)
  | .closeDone, .proceed, w => some ((), { w with done := true })
  | .lock, .proceed, w =>
    if w.locked then none
    else some ((w.channel, w.conn), { w with locked := true, closing := true })
  | .unlock, .proceed, w => some ((), { w with locked := false })
  | _, _, _ => none

structure Loss where
  conn : Nat

def act (e : Loss) (w : World) : Option World :=
  if w.status e.conn = .open then some (w.setStatus e.conn .lost) else none

inductive Role where
  | loop
  | closer
  deriving DecidableEq

def again (configured : Int64) : Role → Stop → Option (ClientProg Stop)
  | .loop, .goOn next => some (reconnectLoop configured next)
  | _, _ => none

def env (configured : Int64) : Env Role Op Reply Stop Choice Loss World :=
  ⟨fun _ => answer, act, again configured⟩

def connected : World :=
  { dialled := 1
    status := Function.update (fun _ => .closed) 0 .open
    conn := some 0
    channel := some 0 }

def start (configured : Int64) : System Role Op Reply Stop World where
  threads
    | .loop => reconnectLoop configured .outer
    | .closer => close
  world := connected

end DxCommonGo.RabbitClient
