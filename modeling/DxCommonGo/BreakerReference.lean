import DxCommonGo.CircuitBreaker
import DxCommonGo.Runs

/-! The breaker used by one goroutine refines a machine with two states: closed with a number of
consecutive failures, and open since some time. -/

namespace DxCommonGo.BreakerReference
open DxErrors CircuitBreaker Runs

inductive Reference (c : Config) where
  | closed (k : Fin c.failureThreshold)
  | open (t : Int)

inductive Op where
  | execute (wait run : Nat) (err : Option GoError)
  | state (wait : Nat)

inductive Output where
  | executed (e : Executed)
  | state (s : State)

structure Timed (μ : Type) where
  now : Int
  machine : μ

def Reference.initial (c : Config) : Reference c := .closed ⟨0, c.threshold_pos⟩

def Reference.failed {c : Config} (k : Fin c.failureThreshold) (finish : Int) : Reference c :=
  if h : k.val + 1 < c.failureThreshold then .closed ⟨k.val + 1, h⟩ else .open finish

def referenceStep (c : Config) (r : Timed (Reference c)) : Op → Output × Timed (Reference c)
  | .execute wait run err =>
    let start := r.now + wait
    let finish := start + run
    match r.machine with
    | .closed k =>
      (.executed ⟨true, err⟩,
        ⟨finish, if failure c err then Reference.failed k finish else Reference.initial c⟩)
    | .open t =>
      if t + c.cooldown ≤ start then
        (.executed ⟨true, err⟩,
          ⟨finish, if failure c err then .open finish else Reference.initial c⟩)
      else (.executed ⟨false, some errOpen⟩, ⟨start, .open t⟩)
  | .state wait =>
    let start := r.now + wait
    let s := match r.machine with
      | .closed _ => State.closed
      | .open t => if t + c.cooldown ≤ start then State.halfOpen else State.open
    (.state s, ⟨start, r.machine⟩)

def breakerStep (c : Config) (s : Timed Breaker) : Op → Output × Timed Breaker
  | .execute wait run err =>
    let start := s.now + wait
    let p := execute c start run err s.machine
    (.executed p.1, ⟨if p.1.called then start + run else start, p.2⟩)
  | .state wait =>
    let start := s.now + wait
    let p := stateCall c start s.machine
    (.state p.1, ⟨start, p.2⟩)

def Represents (c : Config) (now : Int) (b : Breaker) : Reference c → Prop
  | .closed k => b.state = .closed ∧ b.failures = k.val
  | .open t => b.openedAt = t ∧
      (b.state = .open ∨ b.state = .halfOpen ∧ b.probeInFlight = false ∧ t + c.cooldown ≤ now)

def Simulates (c : Config) (s : Timed Breaker) (r : Timed (Reference c)) : Prop :=
  s.now = r.now ∧ Represents c s.now s.machine r.machine

variable {b : Breaker} {c : Config} {now : Int} {m : Reference c}

theorem Represents.later {later : Int} (h : Represents c now b m) (hle : now ≤ later) :
    Represents c later b m := by
  cases m with
  | closed k => exact h
  | «open» t =>
    obtain ⟨opened, state | ⟨state, probe, cooldown⟩⟩ := h
    · exact ⟨opened, .inl state⟩
    · exact ⟨opened, .inr ⟨state, probe, cooldown.trans hle⟩⟩

theorem refresh_closed (now : Int) (h : b.state = .closed) : refresh c now b = b := by
  simp [refresh, h]

theorem Represents.refresh_expired {t : Int} (h : Represents c now b (.open t))
    (hcooldown : t + c.cooldown ≤ now) :
    (refresh c now b).state = .halfOpen ∧ (refresh c now b).probeInFlight = false ∧
      (refresh c now b).openedAt = t := by
  obtain ⟨opened, state | ⟨state, probe, -⟩⟩ := h
  · have expired : c.cooldown ≤ now - t := by omega
    simp [refresh, state, expired, setState, opened]
  · simp [refresh, state, probe, opened]

theorem Represents.refresh_waiting {t : Int} (h : Represents c now b (.open t))
    (hcooldown : ¬t + c.cooldown ≤ now) : refresh c now b = b ∧ b.state = .open := by
  obtain ⟨opened, state | ⟨-, -, passed⟩⟩ := h
  · have waiting : ¬c.cooldown ≤ now - b.openedAt := by omega
    exact ⟨by simp [refresh, waiting], state⟩
  · exact absurd passed hcooldown

theorem Represents.afterCall_closed {k : Fin c.failureThreshold}
    (h : Represents c now b (.closed k)) (finish : Int) (err : Option GoError) :
    Represents c finish (afterCall c finish err b)
      (if failure c err then Reference.failed k finish else Reference.initial c) := by
  obtain ⟨state, failures⟩ := h
  cases hf : failure c err with
  | false => simp [afterCall, state, hf, Represents, Reference.initial]
  | true =>
    by_cases hk : k.val + 1 < c.failureThreshold
    · have below : ¬c.failureThreshold ≤ k.val + 1 := by omega
      simp [afterCall, state, hf, failures, below, Represents, Reference.failed, hk]
    · have reached : c.failureThreshold ≤ k.val + 1 := by omega
      simp [afterCall, state, hf, failures, reached, Represents, Reference.failed, hk, trip,
        setState]

theorem afterCall_probe (hs : b.state = .halfOpen) (finish : Int) (err : Option GoError) :
    Represents c finish (afterCall c finish err b)
      (if failure c err then .open finish else Reference.initial c) := by
  cases hf : failure c err with
  | false => simp [afterCall, hs, hf, Represents, Reference.initial, reset, setState]
  | true => simp [afterCall, hs, hf, Represents, trip, setState]

theorem beforeCall_expired {t : Int} (h : Represents c now b (.open t))
    (hcooldown : t + c.cooldown ≤ now) :
    ∃ b', beforeCall c now b = (none, b') ∧ b'.state = .halfOpen := by
  obtain ⟨state, probe, -⟩ := h.refresh_expired hcooldown
  exact ⟨{ refresh c now b with probeInFlight := true }, by simp [beforeCall, state, probe], state⟩

theorem beforeCall_waiting {t : Int} (h : Represents c now b (.open t))
    (hcooldown : ¬t + c.cooldown ≤ now) : beforeCall c now b = (some errOpen, b) := by
  obtain ⟨same, state⟩ := h.refresh_waiting hcooldown
  simp [beforeCall, same, state]

theorem simulates_execute (h : Represents c now b m) (wait run : Nat) (err : Option GoError) :
    (breakerStep c ⟨now, b⟩ (.execute wait run err)).1 =
        (referenceStep c ⟨now, m⟩ (.execute wait run err)).1 ∧
      Simulates c (breakerStep c ⟨now, b⟩ (.execute wait run err)).2
        (referenceStep c ⟨now, m⟩ (.execute wait run err)).2 := by
  have ready : Represents c (now + wait) b m := h.later (by omega)
  cases m with
  | closed k =>
    have admitted : beforeCall c (now + wait) b = (none, b) := by
      simp [beforeCall, refresh_closed _ ready.1, ready.1]
    have after := ready.afterCall_closed (now + wait + run) err
    simpa [breakerStep, referenceStep, execute, admitted, Simulates] using after
  | «open» t =>
    by_cases hcooldown : t + c.cooldown ≤ now + wait
    · obtain ⟨b', admitted, state⟩ := beforeCall_expired ready hcooldown
      have after := afterCall_probe (c := c) state (now + wait + run) err
      simpa [breakerStep, referenceStep, execute, admitted, hcooldown, Simulates] using after
    · have rejected := beforeCall_waiting ready hcooldown
      simpa [breakerStep, referenceStep, execute, rejected, hcooldown, Simulates] using ready

theorem simulates_state (h : Represents c now b m) (wait : Nat) :
    (breakerStep c ⟨now, b⟩ (.state wait)).1 = (referenceStep c ⟨now, m⟩ (.state wait)).1 ∧
      Simulates c (breakerStep c ⟨now, b⟩ (.state wait)).2
        (referenceStep c ⟨now, m⟩ (.state wait)).2 := by
  have ready : Represents c (now + wait) b m := h.later (by omega)
  cases m with
  | closed k =>
    have same := refresh_closed (c := c) (now + wait) ready.1
    simpa [breakerStep, referenceStep, stateCall, same, ready.1, Simulates] using ready
  | «open» t =>
    by_cases hcooldown : t + c.cooldown ≤ now + wait
    · obtain ⟨state, probe, opened⟩ := ready.refresh_expired hcooldown
      have represents : Represents c (now + wait) (refresh c (now + wait) b) (.open t) :=
        ⟨opened, .inr ⟨state, probe, hcooldown⟩⟩
      simpa [breakerStep, referenceStep, stateCall, state, hcooldown, Simulates] using represents
    · obtain ⟨same, state⟩ := ready.refresh_waiting hcooldown
      simpa [breakerStep, referenceStep, stateCall, same, state, hcooldown, Simulates] using ready

theorem Simulates.step {c : Config} {s : Timed Breaker} {r : Timed (Reference c)}
    (h : Simulates c s r) (op : Op) :
    (breakerStep c s op).1 = (referenceStep c r op).1 ∧
      Simulates c (breakerStep c s op).2 (referenceStep c r op).2 := by
  obtain ⟨now, b⟩ := s
  obtain ⟨now', m⟩ := r
  obtain ⟨rfl, represents⟩ : now = now' ∧ Represents c now b m := h
  cases op with
  | execute wait run err => exact simulates_execute represents wait run err
  | state wait => exact simulates_state represents wait

/-- Every sequential run answers as the reference machine does. -/
theorem breaker_refines_reference (c : Config) (now : Int) (ops : List Op) :
    outputs (breakerStep c) ⟨now, newBreaker⟩ ops =
      outputs (referenceStep c) ⟨now, Reference.initial c⟩ ops := by
  apply outputs_eq_of_simulation (Simulates c) fun s r op h => h.step op
  exact ⟨rfl, rfl, rfl⟩

end DxCommonGo.BreakerReference
