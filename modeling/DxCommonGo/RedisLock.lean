import DxCommonGo.DxErrors
import DxCommonGo.RelyGuarantee

/-! `Mutex` of package `redis`, and the server its calls interleave on. Commands are atomic; a reply
can be lost, a command can be sent again or applied after its sender has given up, and a key can
expire at any moment. -/

namespace DxCommonGo.RedisLock
open GoStrings DxErrors Programs Threads RelyGuarantee

def errLockNotHeld : GoError := errorsNew (str "redis: lock not held")

structure Mutex where
  key : GoString
  ttl : Int64

def newMutex (key : GoString) (ttl : Int64) : Mutex := ⟨str "lock:" ++ key, ttl⟩

inductive Command where
  | setNX (key token : GoString) (ttl : Int64)
  | eval (key token : GoString)

namespace Command

def key : Command → GoString
  | setNX key _ _ => key
  | eval key _ => key

def Result : Command → Type
  | setNX _ _ _ => Bool
  | eval _ _ => Int64

def unlockScript (stored : Option GoString) (token : GoString) : Int64 × Option GoString :=
  if stored = some token then (1, none) else (0, stored)

def apply : (c : Command) → Option GoString → c.Result × Option GoString
  | setNX _ token _, none => (true, some token)
  | setNX _ _ _, some value => (false, some value)
  | eval _ token, stored => unlockScript stored token

end Command

/-- An error of one attempt, and whether the client may make another. -/
structure Failure where
  err : GoError
  retry : Bool

/-- The token field of instance `m` is read and written as a plain field. -/
inductive Op where
  | newString
  | send (c : Command)
  | readToken (m : Nat)
  | writeToken (m : Nat) (token : GoString)

@[reducible] def Reply : Op → Type
  | .newString => GoString
  | .send c => Except Failure c.Result
  | .readToken _ => GoString
  | .writeToken _ _ => Unit

abbrev LockProg (α : Type) := Prog Op Reply α

def ask (op : Op) : LockProg (Reply op) := perform op

/-- A command of the client, sent again after a failure as often as allowed. -/
def process (c : Command) : Nat → LockProg (Except GoError c.Result)
  | 0 => do
    match ← ask (.send c) with
    | .ok r => return .ok r
    | .error f => return .error f.err
  | retries + 1 => do
    match ← ask (.send c) with
    | .ok r => return .ok r
    | .error f => if f.retry then process c retries else return .error f.err

def lock (retries m : Nat) (mutex : Mutex) : LockProg (Bool × Option GoError) := do
  let token : GoString ← ask .newString
  let reply : Except GoError Bool ← process (.setNX mutex.key token mutex.ttl) retries
  match reply with
  | .error err => return (false, some (errorf (str "redis.Mutex.Lock: %w") err))
  | .ok true =>
    ask (.writeToken m token)
    return (true, none)
  | .ok false => return (false, none)

def unlock (retries m : Nat) (mutex : Mutex) : LockProg (Option GoError) := do
  let held : GoString ← ask (.readToken m)
  if held = [] then return some errLockNotHeld
  else
    let token : GoString ← ask (.readToken m)
    let reply : Except GoError Int64 ← process (.eval mutex.key token) retries
    match reply with
    | .error err => return some (errorf (str "redis.Mutex.Unlock: %w") err)
    | .ok n =>
      ask (.writeToken m [])
      if n = 0 then return some errLockNotHeld else return none

inductive Call where
  | lock (m : Nat)
  | unlock (m : Nat)

inductive Outcome where
  | locked (ok : Bool) (err : Option GoError)
  | unlocked (err : Option GoError)

/-- The keys and lifetimes of the instances, the calls made on them, and the
retries of the client. -/
structure Setup where
  keys : Nat → GoString
  ttls : Nat → Int64
  calls : Nat → Call
  retries : Nat

def Setup.mutexes (u : Setup) (m : Nat) : Mutex := newMutex (u.keys m) (u.ttls m)

def Setup.program (u : Setup) (i : Nat) : LockProg Outcome :=
  match u.calls i with
  | .lock m => do
    let (ok, err) ← RedisLock.lock u.retries m (u.mutexes m)
    return .locked ok err
  | .unlock m => do
    let err ← RedisLock.unlock u.retries m (u.mutexes m)
    return .unlocked err

/-- A command of a call that the server has applied, with the value of its key
before and after. -/
structure Applied where
  call : Nat
  command : Command
  before : Option GoString
  after : Option GoString

/-- The keys of the server, the token fields, the tokens drawn, the commands on their way, and those
applied so far. -/
structure World where
  store : GoString → Option GoString := fun _ => none
  token : Nat → GoString := fun _ => []
  issued : List (Nat × GoString) := []
  pending : List (Nat × Command) := []
  log : List Applied := []

def World.apply (w : World) (i : Nat) (c : Command) : World :=
  { w with
    store := Function.update w.store c.key (c.apply (w.store c.key)).2
    log := w.log ++ [⟨i, c, w.store c.key, (c.apply (w.store c.key)).2⟩] }

/-- A token drawn, a command answered, a reply lost after the command was
applied, or an attempt given up before that. -/
inductive Choice where
  | draw (token : GoString)
  | answered
  | lost (f : Failure)
  | late (f : Failure)

inductive Event where
  | expire (key : GoString)
  | deliver (n : Nat)

def answer (i : Nat) : (op : Op) → Choice → World → Option (Reply op × World)
  | .newString, .draw token, w =>
    if token ≠ [] ∧ ∀ p ∈ w.issued, p.2 ≠ token then
      some (token, { w with issued := (i, token) :: w.issued })
    else none
  | .send c, .answered, w => some (.ok (c.apply (w.store c.key)).1, w.apply i c)
  | .send c, .lost f, w => some (.error f, w.apply i c)
  | .send c, .late f, w => some (.error f, { w with pending := w.pending ++ [(i, c)] })
  | .readToken m, .answered, w => some (w.token m, w)
  | .writeToken m token, .answered, w =>
    some ((), { w with token := Function.update w.token m token })
  | _, _, _ => none

def act : Event → World → Option World
  | .expire key, w => some { w with store := Function.update w.store key none }
  | .deliver n, w =>
    (w.pending[n]?).map fun p => { w with pending := w.pending.eraseIdx n }.apply p.1 p.2

def env : Env Nat Op Reply Outcome Choice Event World := ⟨answer, act, fun _ _ => none⟩

def Setup.start (u : Setup) : System Nat Op Reply Outcome World := ⟨u.program, {}⟩

end DxCommonGo.RedisLock
