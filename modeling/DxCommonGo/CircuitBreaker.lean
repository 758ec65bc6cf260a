import DxCommonGo.DxErrors
import Mathlib.Tactic.Common

/-! The circuit breaker of package `resilience`. Every method holds the mutex throughout, so each is
a function on the breaker's fields and a clock reading in nanoseconds. Calls of the state-change
hook are recorded in `changes`. -/

namespace DxCommonGo.CircuitBreaker
open GoStrings GoErrors DxErrors

inductive State where
  | closed | open | halfOpen
  deriving DecidableEq, Repr

def State.text : State → GoString
  | .closed => str "closed"
  | .open => str "open"
  | .halfOpen => str "half-open"

def errOpen : GoError := leaf (.sentinel .breakerOpen)

/-- The settings. The options refuse a threshold or cooldown below one. -/
structure Config where
  failureThreshold : Nat
  cooldown : Int
  isFailure : Option GoError → Bool
  threshold_pos : 0 < failureThreshold
  cooldown_pos : 0 < cooldown

def Config.default : Config where
  failureThreshold := 5
  cooldown := 30 * 10 ^ 9
  isFailure err := err.isSome
  threshold_pos := by decide
  cooldown_pos := by decide

def withFailureThreshold (n : Int) (c : Config) : Config :=
  if h : 0 < n then { c with failureThreshold := n.toNat, threshold_pos := by omega } else c

def withCooldown (d : Int) (c : Config) : Config :=
  if h : 0 < d then { c with cooldown := d, cooldown_pos := h } else c

def withFailureClassifier (f : Option (Option GoError → Bool)) (c : Config) : Config :=
  match f with
  | none => c
  | some f => { c with isFailure := f }

def newConfig (opts : List (Config → Config)) : Config :=
  opts.foldl (fun c o => o c) Config.default

structure Change where
  source : State
  target : State
  time : Int
  deriving DecidableEq

structure Breaker where
  state : State
  failures : Nat
  openedAt : Int
  probeInFlight : Bool
  changes : List Change
  deriving DecidableEq

def newBreaker : Breaker := ⟨.closed, 0, 0, false, []⟩

def setState (now : Int) (s : State) (b : Breaker) : Breaker :=
  if b.state = s then b else { b with state := s, changes := b.changes ++ [⟨b.state, s, now⟩] }

def trip (now : Int) (b : Breaker) : Breaker := setState now .open { b with openedAt := now }

def reset (now : Int) (b : Breaker) : Breaker := setState now .closed { b with failures := 0 }

def refresh (c : Config) (now : Int) (b : Breaker) : Breaker :=
  if b.state = .open ∧ c.cooldown ≤ now - b.openedAt then
    { setState now .halfOpen b with probeInFlight := false }
  else b

def stateCall (c : Config) (now : Int) (b : Breaker) : State × Breaker :=
  ((refresh c now b).state, refresh c now b)

def beforeCall (c : Config) (now : Int) (b : Breaker) : Option GoError × Breaker :=
  let b := refresh c now b
  match b.state with
  | .open => (some errOpen, b)
  | .halfOpen =>
    if b.probeInFlight then (some errOpen, b) else (none, { b with probeInFlight := true })
  | .closed => (none, b)

/-- What counts as a failure: `ErrOpen` never does. -/
def failure (c : Config) (err : Option GoError) : Bool :=
  c.isFailure err && !(err.any fun e => errorsIs e (.sentinel .breakerOpen))

def afterCall (c : Config) (now : Int) (err : Option GoError) (b : Breaker) : Breaker :=
  match b.state with
  | .halfOpen =>
    let b := { b with probeInFlight := false }
    if failure c err then trip now b else reset now b
  | .closed | .open =>
    if failure c err then
      let b := { b with failures := b.failures + 1 }
      if c.failureThreshold ≤ b.failures then trip now b else b
    else { b with failures := 0 }

structure Executed where
  called : Bool
  err : Option GoError

def execute (c : Config) (now : Int) (run : Nat) (err : Option GoError) (b : Breaker) :
    Executed × Breaker :=
  match beforeCall c now b with
  | (some rejected, b) => (⟨false, some rejected⟩, b)
  | (none, b) => (⟨true, err⟩, afterCall c (now + run) err b)

end DxCommonGo.CircuitBreaker
