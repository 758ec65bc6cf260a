import DxCommonGo.CircuitBreaker
import DxCommonGo.Runs

/-! Concurrent use of one breaker: `beforeCall`, `afterCall`, `State`, panics of the called function
and the passing of time interleave in any order. -/

namespace DxCommonGo.BreakerWorld
open GoStrings DxErrors CircuitBreaker

def halfOpenPeriods (b : Breaker) : Nat := b.changes.countP fun ch => ch.target = .halfOpen

structure Call where
  id : Nat
  admitted : State
  period : Nat
  deriving DecidableEq

structure World where
  breaker : Breaker
  now : Int
  running : List Call
  deriving DecidableEq

inductive Event where
  | tick (d : Nat)
  | observe
  | start (id : Nat)
  | finish (id : Nat) (err : Option GoError)
  | panic (id : Nat)

def newWorld (now : Int) : World := ⟨newBreaker, now, []⟩

def World.remove (w : World) (id : Nat) : List Call := w.running.filter fun call => call.id ≠ id

def World.isRunning (w : World) (id : Nat) : Bool := w.running.any fun call => call.id = id

def step (c : Config) (w : World) : Event → Option World
  | .tick d => some { w with now := w.now + d }
  | .observe => some { w with breaker := (stateCall c w.now w.breaker).2 }
  | .start id =>
    if w.isRunning id then none
    else
      match beforeCall c w.now w.breaker with
      | (none, b) =>
        some { w with breaker := b, running := ⟨id, b.state, halfOpenPeriods b⟩ :: w.running }
      | (some _, b) => some { w with breaker := b }
  | .finish id err =>
    if w.isRunning id then
      some { w with breaker := afterCall c w.now err w.breaker, running := w.remove id }
    else none
  | .panic id => if w.isRunning id then some { w with running := w.remove id } else none

def Expired (c : Config) (w : World) : Prop :=
  w.breaker.state = .open ∧ c.cooldown ≤ w.now - w.breaker.openedAt

def moveTo (b : Breaker) (s : State) (now : Int) : Breaker :=
  { b with state := s, changes := b.changes ++ [⟨b.state, s, now⟩] }

inductive Transition (c : Config) (w : World) : Event → World → Prop where
  | tick (d : Nat) : Transition c w (.tick d) { w with now := w.now + d }
  | same : ¬Expired c w → Transition c w .observe w
  | expire : Expired c w →
      Transition c w .observe
        { w with breaker :=
            { moveTo w.breaker .halfOpen w.now with probeInFlight := false } }
  | admitClosed (id : Nat) : w.isRunning id = false → w.breaker.state = .closed →
      Transition c w (.start id)
        { w with running := ⟨id, .closed, halfOpenPeriods w.breaker⟩ :: w.running }
  | reject (id : Nat) : ¬Expired c w →
      (w.breaker.state = .open ∨ w.breaker.state = .halfOpen ∧ w.breaker.probeInFlight = true) →
      Transition c w (.start id) w
  | admitProbe (id : Nat) : w.isRunning id = false → w.breaker.state = .halfOpen →
      w.breaker.probeInFlight = false →
      Transition c w (.start id)
        { w with
          breaker := { w.breaker with probeInFlight := true }
          running := ⟨id, .halfOpen, halfOpenPeriods w.breaker⟩ :: w.running }
  | admitExpired (id : Nat) : w.isRunning id = false → Expired c w →
      Transition c w (.start id)
        { w with
          breaker := { moveTo w.breaker .halfOpen w.now with probeInFlight := true }
          running := ⟨id, .halfOpen, halfOpenPeriods w.breaker + 1⟩ :: w.running }
  | probeFailed (id : Nat) (err : Option GoError) : w.isRunning id = true →
      w.breaker.state = .halfOpen → failure c err = true →
      Transition c w (.finish id err)
        { w with
          breaker :=
            { moveTo w.breaker .open w.now with probeInFlight := false, openedAt := w.now }
          running := w.remove id }
  | probeSucceeded (id : Nat) (err : Option GoError) : w.isRunning id = true →
      w.breaker.state = .halfOpen → failure c err = false →
      Transition c w (.finish id err)
        { w with
          breaker :=
            { moveTo w.breaker .closed w.now with probeInFlight := false, failures := 0 }
          running := w.remove id }
  | succeeded (id : Nat) (err : Option GoError) : w.isRunning id = true →
      w.breaker.state ≠ .halfOpen → failure c err = false →
      Transition c w (.finish id err)
        { w with breaker := { w.breaker with failures := 0 }, running := w.remove id }
  | counted (id : Nat) (err : Option GoError) : w.isRunning id = true →
      w.breaker.state ≠ .halfOpen → failure c err = true →
      w.breaker.failures + 1 < c.failureThreshold →
      Transition c w (.finish id err)
        { w with
          breaker := { w.breaker with failures := w.breaker.failures + 1 }
          running := w.remove id }
  | tripped (id : Nat) (err : Option GoError) : w.isRunning id = true →
      w.breaker.state = .closed → failure c err = true →
      c.failureThreshold ≤ w.breaker.failures + 1 →
      Transition c w (.finish id err)
        { w with
          breaker :=
            { moveTo w.breaker .open w.now with
              failures := w.breaker.failures + 1, openedAt := w.now }
          running := w.remove id }
  | tripsAgain (id : Nat) (err : Option GoError) : w.isRunning id = true →
      w.breaker.state = .open → failure c err = true →
      c.failureThreshold ≤ w.breaker.failures + 1 →
      Transition c w (.finish id err)
        { w with
          breaker := { w.breaker with failures := w.breaker.failures + 1, openedAt := w.now }
          running := w.remove id }
  | panicked (id : Nat) : w.isRunning id = true →
      Transition c w (.panic id) { w with running := w.remove id }

variable {c : Config} {w : World}

theorem refresh_of_expired (h : Expired c w) :
    refresh c w.now w.breaker =
      { moveTo w.breaker .halfOpen w.now with probeInFlight := false } := by
  have expired : w.breaker.state = .open ∧ c.cooldown ≤ w.now - w.breaker.openedAt := h
  simp [refresh, expired, setState, moveTo]

theorem refresh_of_not_expired (h : ¬Expired c w) : refresh c w.now w.breaker = w.breaker := by
  have waiting : ¬(w.breaker.state = .open ∧ c.cooldown ≤ w.now - w.breaker.openedAt) := h
  rw [refresh, if_neg waiting]

theorem start_transition {w' : World} {id : Nat} (h : step c w (.start id) = some w') :
    Transition c w (.start id) w' := by
  simp only [step] at h
  split_ifs at h with hid
  have fresh : w.isRunning id = false := by simpa using hid
  by_cases hexp : Expired c w
  · simp only [beforeCall, refresh_of_expired hexp, moveTo] at h
    cases h
    have counted : halfOpenPeriods { moveTo w.breaker .halfOpen w.now with
        probeInFlight := true } = halfOpenPeriods w.breaker + 1 := by
      simp [halfOpenPeriods, moveTo]
    have moved := Transition.admitExpired (w := w) id fresh hexp
    rw [← counted] at moved
    exact moved
  · simp only [beforeCall, refresh_of_not_expired hexp] at h
    cases hs : w.breaker.state with
    | closed =>
      simp only [hs] at h
      cases h
      exact .admitClosed id fresh hs
    | «open» =>
      simp only [hs] at h
      cases h
      exact .reject id hexp (.inl hs)
    | halfOpen =>
      simp only [hs] at h
      cases hp : w.breaker.probeInFlight with
      | true =>
        simp only [hp, if_true] at h
        cases h
        exact .reject id hexp (.inr ⟨hs, hp⟩)
      | false =>
        have moved := Transition.admitProbe (c := c) id fresh hs hp
        simp only [hp] at h
        cases h
        simpa [hs, halfOpenPeriods] using moved

theorem finish_transition {w' : World} {id : Nat} {err : Option GoError}
    (h : step c w (.finish id err) = some w') : Transition c w (.finish id err) w' := by
  simp only [step] at h
  split_ifs at h with hid
  cases h
  cases hf : failure c err with
  | true =>
    cases hs : w.breaker.state with
    | halfOpen =>
      have moved := Transition.probeFailed (c := c) id err hid hs hf
      simpa [afterCall, hs, hf, trip, setState, moveTo] using moved
    | closed =>
      by_cases ht : c.failureThreshold ≤ w.breaker.failures + 1
      · have moved := Transition.tripped id err hid hs hf ht
        simpa [afterCall, hs, hf, ht, trip, setState, moveTo] using moved
      · have moved := Transition.counted id err hid (by simp [hs]) hf (by omega)
        simpa [afterCall, hs, hf, ht] using moved
    | «open» =>
      by_cases ht : c.failureThreshold ≤ w.breaker.failures + 1
      · have moved := Transition.tripsAgain id err hid hs hf ht
        simpa [afterCall, hs, hf, ht, trip, setState] using moved
      · have moved := Transition.counted id err hid (by simp [hs]) hf (by omega)
        simpa [afterCall, hs, hf, ht] using moved
  | false =>
    by_cases hs : w.breaker.state = .halfOpen
    · have moved := Transition.probeSucceeded (c := c) id err hid hs hf
      simpa [afterCall, hs, hf, reset, setState, moveTo] using moved
    · have moved := Transition.succeeded (c := c) id err hid hs hf
      cases hb : w.breaker.state with
      | halfOpen => exact absurd hb hs
      | closed | «open» => simpa [afterCall, hb, hf] using moved

theorem step_transition {w' : World} {a : Event} (h : step c w a = some w') :
    Transition c w a w' := by
  cases a with
  | tick d =>
    cases h
    exact .tick d
  | observe =>
    cases h
    by_cases hexp : Expired c w
    · rw [stateCall, refresh_of_expired hexp]
      exact .expire hexp
    · rw [stateCall, refresh_of_not_expired hexp]
      exact .same hexp
  | start id => exact start_transition h
  | finish id err => exact finish_transition h
  | panic id =>
    simp only [step] at h
    split_ifs at h with hid
    cases h
    exact .panicked id hid

theorem remove_sublist (w : World) (id : Nat) : (w.remove id).Sublist w.running :=
  List.filter_sublist

theorem not_mem_of_not_running {id : Nat} (h : w.isRunning id = false) :
    id ∉ w.running.map Call.id := by
  simpa [World.isRunning] using h

theorem exists_of_running {id : Nat} (h : w.isRunning id = true) :
    ∃ call ∈ w.running, call.id = id := by
  simpa [World.isRunning] using h

@[simp] theorem halfOpenPeriods_moveTo_halfOpen (b : Breaker) (now : Int) :
    halfOpenPeriods (moveTo b .halfOpen now) = halfOpenPeriods b + 1 := by
  simp [halfOpenPeriods, moveTo]

def tripOnce : Config := newConfig [withFailureThreshold 1, withCooldown 10]

def boom : Option GoError := some (errorsNew (str "boom"))

end DxCommonGo.BreakerWorld
