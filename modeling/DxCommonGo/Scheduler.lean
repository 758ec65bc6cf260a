import DxCommonGo.DxErrors
import DxCommonGo.Programs

/-! Package `scheduler`. A goroutine runs each job, at once and after every tick and kick, under an
advisory lock if it is a singleton. The body of a job lies between `enter` and `leave`; contexts,
pools and channels show in the replies. -/

namespace DxCommonGo.Scheduler
open GoStrings DxErrors Programs

structure Job where
  name : GoString
  every : Int
  jitter : Int := 0
  timeout : Int := 0

/-- A job with its options and its channel for kicks, of which the model keeps the name. -/
structure RegisteredJob (κ : Type) where
  job : Job
  singleton : Bool := false
  kick : κ

section Runner

variable {κ : Type}

def register (jobs : List (RegisteredJob κ)) (rj : RegisteredJob κ) :
    Except GoString (List (RegisteredJob κ)) :=
  if rj.job.every ≤ 0 then .error (str "scheduler: Job.Every must be positive: " ++ rj.job.name)
  else if jobs.any (fun existing => existing.job.name = rj.job.name) then
    .error (str "scheduler: duplicate job name: " ++ rj.job.name)
  else .ok (jobs ++ [rj])

def kickChannel (jobs : List (RegisteredJob κ)) (name : GoString) : Option κ :=
  (jobs.find? fun rj => rj.job.name = name).map RegisteredJob.kick

/-- A job that is registered is the one its name kicks, and the others still are. -/
theorem kickChannel_register {jobs jobs' : List (RegisteredJob κ)} {rj : RegisteredJob κ}
    (added : register jobs rj = .ok jobs') (name : GoString) :
    kickChannel jobs' name = if rj.job.name = name then some rj.kick else kickChannel jobs name := by
  unfold register at added
  split_ifs at added with every taken
  cases added
  rw [kickChannel, List.find?_append]
  split_ifs with same
  · subst same
    have free : jobs.find? (fun existing => existing.job.name = rj.job.name) = none := by
      simpa using taken
    simp [free]
  · simp [same, kickChannel]

end Runner

section LockKey

def fnv64a (bytes : GoString) : BitVec 64 :=
  bytes.foldl (fun h b => (h ^^^ BitVec.ofNat 64 b.toNat) * 1099511628211) 14695981039346656037

example : fnv64a (str "a") = 0xaf63dc4c8601ec8c := by decide

def lockKey (name : GoString) : Int := (fnv64a name).toInt

end LockKey

/-- The context of a call: the one of `Start`, with a timeout or not, or none that ends. -/
inductive Context where
  | start
  | withTimeout (timeout : Int)
  | background

inductive JobEnd where
  | returned (err : Option GoError)
  | panicked (value : GoString)
  | exited

inductive Wake where
  | done
  | tick
  | kick
  deriving DecidableEq

inductive Metric where
  | skippedSingleton
  | runs
  | duration
  | failures

inductive Op (κ : Type) where
  | jitter (bound : Int)
  | acquire (ctx : Context)
  | tryLock (ctx : Context) (conn : Nat) (key : Int)
  | enter (ctx : Context)
  | leave
  | unlock (ctx : Context) (conn : Nat) (key : Int)
  | release (conn : Nat)
  | count (metric : Metric)
  | select (kick : κ)

abbrev Reply {κ : Type} : Op κ → Type
  | .jitter _ => Bool
  | .acquire _ => Except GoError Nat
  | .tryLock _ _ _ => Except GoError Bool
  | .enter _ => Unit
  | .leave => JobEnd
  | .unlock _ _ _ => Option GoError
  | .release _ => Unit
  | .count _ => Unit
  | .select _ => Wake

variable {κ : Type}

abbrev SchedProg (κ α : Type) := Prog (Op κ) Reply α

abbrev call (op : Op κ) : SchedProg κ (Reply op) := perform op

def tryLockOn (ctx : Context) (conn : Nat) (key : Int) :
    SchedProg κ (Except GoError (Option Nat)) := do
  match ← call (.tryLock ctx conn key) with
  | .error err =>
    call (.release conn)
    return .error (errorf (str "scheduler: pg_try_advisory_lock: %w") err)
  | .ok false =>
    call (.release conn)
    return .ok none
  | .ok true => return .ok (some conn)

/-- The connection that holds the lock, if this session got it. -/
def tryAdvisoryLock (ctx : Context) (key : Int) : SchedProg κ (Except GoError (Option Nat)) := do
  match ← call (.acquire ctx) with
  | .error err => return .error (errorf (str "scheduler: acquire connection: %w") err)
  | .ok conn => tryLockOn ctx conn key

def unlock (conn : Nat) (key : Int) : SchedProg κ Unit := do
  let _ ← call (.unlock .background conn key)
  call (.release conn)

def runProtected (ctx : Context) : SchedProg κ (Option (Option GoError)) := do
  call (.enter ctx)
  match ← call .leave with
  | .returned err => return some err
  | .panicked value => return some (some (errorsNew (str "scheduler: job %q panicked: " ++ value)))
  | .exited => return none

def measuredRun (ctx : Context) : SchedProg κ Bool := do
  match ← runProtected ctx with
  | none => return false
  | some err =>
    call (.count .runs)
    call (.count .duration)
    if err.isSome then call (.count .failures)
    return true

def runOnce (rj : RegisteredJob κ) : SchedProg κ Bool := do
  let runCtx := if 0 < rj.job.timeout then .withTimeout rj.job.timeout else .start
  if rj.singleton then
    match ← tryAdvisoryLock runCtx (lockKey rj.job.name) with
    | .error _ => return true
    | .ok none =>
      call (.count .skippedSingleton)
      return true
    | .ok (some conn) =>
      -- the unlock is deferred, so it also follows a goroutine that ends
      let goesOn ← measuredRun runCtx
      unlock conn (lockKey rj.job.name)
      return goesOn
  else measuredRun runCtx

def turn (rj : RegisteredJob κ) : SchedProg κ Wake := do
  if ← runOnce rj then call (.select rj.kick) else return .done

/-- What `runLoop` does until the end of its first turn; another follows unless the context is
done. -/
def runLoop (rj : RegisteredJob κ) : SchedProg κ Wake := do
  if 0 < rj.job.jitter then
    if ← call (.jitter rj.job.jitter) then turn rj else return .done
  else turn rj

def nextTurn (rj : RegisteredJob κ) : Wake → Option (SchedProg κ Wake)
  | .done => none
  | _ => some (turn rj)

end DxCommonGo.Scheduler
