import DxCommonGo.BreakerProbes

/-! The open state under concurrent calls. `afterCall` treats an open breaker like a closed one, so
a call admitted before the trip that fails after it starts the cooldown anew. -/

namespace DxCommonGo.BreakerTrip
open CircuitBreaker BreakerWorld BreakerProbes Runs

def openSince (b : Breaker) : Option Int :=
  if b.state = .open then b.changes.getLast?.map Change.time else none

def ProbeAtCooldown (c : Config) (t : Int) (w w' : World) : Event → Prop
  | .start id => t + c.cooldown ≤ w.now → ∃ call ∈ w'.running, call.id = id ∧ IsProbe w' call
  | _ => True

def Arrives : Event → Prop
  | .start _ | .observe => True
  | _ => False

/-- A step that opens the breaker sets `openedAt`, and one that finds it open keeps it. Open is left
only by a call after the cooldown, which is the probe. -/
def KeepsTrip (c : Config) (w : World) (a : Event) (w' : World) : Prop :=
  match openSince w.breaker with
  | none => w'.breaker.state = .open → openSince w'.breaker = some w'.breaker.openedAt ∧
      w'.breaker.openedAt = w.now
  | some t => (w'.breaker.state = .open → w'.breaker.openedAt = t) ∧
      (w'.breaker.state ≠ .open → t + c.cooldown ≤ w.now ∧ Arrives a) ∧
      ProbeAtCooldown c t w w' a

/-- A failure that finds the breaker open and the count at the threshold comes
at the instant of the trip. -/
def Settled (c : Config) (w : World) : Event → Prop
  | .finish _ err => w.breaker.state = .open → failure c err = true →
      c.failureThreshold ≤ w.breaker.failures + 1 → w.now = w.breaker.openedAt
  | _ => True

def Dated (w : World) : Prop :=
  w.breaker.state = .open → openSince w.breaker = some w.breaker.openedAt

theorem openSince_of_not_open {b : Breaker} (h : b.state ≠ .open) : openSince b = none := by
  rw [openSince, if_neg h]

variable {a : Event} {c : Config} {w w' : World}

theorem enters_open (hstep : Transition c w a w') (hs : w.breaker.state ≠ .open)
    (hs' : w'.breaker.state = .open) :
    openSince w'.breaker = some w'.breaker.openedAt ∧ w'.breaker.openedAt = w.now := by
  cases hstep with
  | tick | same | reject | admitClosed | admitProbe | succeeded | counted | panicked =>
    exact absurd hs' hs
  | expire | admitExpired | probeSucceeded => cases hs'
  | probeFailed | tripped => simp [openSince, moveTo]
  | tripsAgain id err hid ho => exact absurd ho hs

theorem stays_open (hstep : Transition c w a w') (hs : w.breaker.state = .open)
    (hs' : w'.breaker.state = .open) :
    openSince w'.breaker = openSince w.breaker ∧
      (Settled c w a → w'.breaker.openedAt = w.breaker.openedAt) := by
  cases hstep with
  | tick | same | reject | succeeded | counted | panicked => exact ⟨rfl, fun _ => rfl⟩
  | expire | admitExpired => cases hs'
  | admitClosed id hid hc => rw [hs] at hc; cases hc
  | admitProbe id hid hh => rw [hs] at hh; cases hh
  | probeFailed id err hid hh | probeSucceeded id err hid hh => rw [hs] at hh; cases hh
  | tripped id err hid hc => rw [hs] at hc; cases hc
  | tripsAgain id err hid ho hf hle => exact ⟨rfl, fun settled => settled hs hf hle⟩

theorem leaves_open (hstep : Transition c w a w') (hs : w.breaker.state = .open)
    (hs' : w'.breaker.state ≠ .open) : w.breaker.openedAt + c.cooldown ≤ w.now ∧ Arrives a := by
  cases hstep with
  | tick | same | reject | succeeded | counted | panicked => exact absurd hs hs'
  | expire hexp => exact ⟨by have := hexp.2; omega, trivial⟩
  | admitExpired id hid hexp => exact ⟨by have := hexp.2; omega, trivial⟩
  | admitClosed id hid hc => rw [hs] at hc; cases hc
  | admitProbe id hid hh => rw [hs] at hh; cases hh
  | probeFailed id err hid hh | probeSucceeded id err hid hh => rw [hs] at hh; cases hh
  | tripped | tripsAgain => exact absurd (by simp [moveTo, hs]) hs'

theorem start_expired {id : Nat} (hstep : Transition c w (.start id) w') (hexp : Expired c w) :
    ∃ call ∈ w'.running, call.id = id ∧ IsProbe w' call := by
  cases hstep with
  | admitClosed _ _ hc => rw [hexp.1] at hc; cases hc
  | admitProbe _ _ hh => rw [hexp.1] at hh; cases hh
  | reject _ hne => exact absurd hexp hne
  | admitExpired =>
    exact ⟨_, List.mem_cons_self, rfl, rfl,
      (halfOpenPeriods_moveTo_halfOpen w.breaker w.now).symm⟩

theorem probeAtCooldown (hs : w.breaker.state = .open) (hstep : Transition c w a w') :
    ProbeAtCooldown c w.breaker.openedAt w w' a := by
  cases a with
  | start id =>
    intro hcooldown
    exact start_expired hstep ⟨hs, by omega⟩
  | tick | observe | finish | panic => trivial

theorem Dated.keepsTrip (h : Dated w) (hsettled : Settled c w a) (hstep : Transition c w a w') :
    Dated w' ∧ KeepsTrip c w a w' := by
  by_cases hs : w.breaker.state = .open
  · have since := h hs
    have kept : w'.breaker.state = .open → openSince w'.breaker = some w'.breaker.openedAt ∧
        w'.breaker.openedAt = w.breaker.openedAt := by
      intro hs'
      obtain ⟨same, dated⟩ := stays_open hstep hs hs'
      rw [same, since, dated hsettled]
      exact ⟨rfl, rfl⟩
    refine ⟨fun hs' => (kept hs').1, ?_⟩
    simp only [KeepsTrip, since]
    exact ⟨fun hs' => (kept hs').2, leaves_open hstep hs, probeAtCooldown hs hstep⟩
  · have entered := enters_open hstep hs
    refine ⟨fun hs' => (entered hs').1, ?_⟩
    simp only [KeepsTrip, openSince_of_not_open hs]
    exact entered

theorem Dated.settled (h : Dated w) (hkeeps : KeepsTrip c w a w') (hstep : Transition c w a w') :
    Settled c w a := by
  cases hstep with
  | tripsAgain id err hid ho hf hle =>
    intro _ _ _
    simp only [KeepsTrip, h ho] at hkeeps
    exact hkeeps.1 ho
  | tripped id err hid hc | probeFailed id err hid hc | probeSucceeded id err hid hc =>
    intro ho
    rw [hc] at ho
    cases ho
  | succeeded id err hid hs hf =>
    intro _ hfail
    rw [hf] at hfail
    cases hfail
  | counted id err hid hs hf hlt =>
    intro _ _ hle
    omega
  | _ => trivial

/-- Along any interleaving `openedAt` stays at the time of the trip and the
first call after the cooldown is the probe, exactly when no failure that finds
the breaker open with the count at the threshold comes later than the trip. -/
theorem keepsTrip_iff (c : Config) (now : Int) (as : List Event) :
    Along (step c) (KeepsTrip c) (newWorld now) as ↔
      Along (step c) (fun w a _ => Settled c w a) (newWorld now) as := by
  have start : Dated (newWorld now) := by simp [Dated, newWorld, newBreaker]
  constructor
  · apply Along.of_invariant Dated _ start
    intro w a w' hstep dated hkeeps
    have moved := step_transition hstep
    have settled := dated.settled hkeeps moved
    exact ⟨(dated.keepsTrip settled moved).1, settled⟩
  · apply Along.of_invariant Dated _ start
    intro w a w' hstep dated settled
    exact dated.keepsTrip settled (step_transition hstep)

instance (a : Event) : Decidable (Arrives a) :=
  match a with
  | .start _ | .observe => inferInstanceAs (Decidable True)
  | .tick _ | .finish _ _ | .panic _ => inferInstanceAs (Decidable False)

instance (c : Config) (t : Int) (w w' : World) (a : Event) :
    Decidable (ProbeAtCooldown c t w w' a) :=
  match a with
  | .start _ => inferInstanceAs (Decidable (_ → _))
  | .tick _ | .observe | .finish _ _ | .panic _ => inferInstanceAs (Decidable True)

instance (c : Config) (w : World) (a : Event) (w' : World) : Decidable (KeepsTrip c w a w') := by
  unfold KeepsTrip
  split <;> infer_instance

/-- Both calls fail; the second failure, five units after the trip, opens the
breaker again and the call at the end of the first cooldown is rejected. -/
theorem late_failure_trips_again :
    ¬Along (step tripOnce) (KeepsTrip tripOnce) (newWorld 0)
      [.start 1, .start 2, .finish 1 boom, .tick 5, .finish 2 boom, .tick 5, .start 3] := by
  decide

end DxCommonGo.BreakerTrip
