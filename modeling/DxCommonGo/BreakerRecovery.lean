import DxCommonGo.BreakerProbes

/-! Recovery from the half-open state. A panic unwinds `Execute` before `afterCall`, so a probe that
panics leaves `probeInFlight` set with nothing running, and every later call is rejected. -/

namespace DxCommonGo.BreakerRecovery
open CircuitBreaker BreakerWorld BreakerProbes Runs

def FlagHasProbe (w : World) : Prop :=
  w.breaker.probeInFlight = true → ∃ call ∈ w.running, IsProbe w call

/-- With nothing running, a call made a cooldown later is admitted. -/
def Recovers (c : Config) (w : World) : Prop :=
  w.running = [] → ∀ later, w.now + c.cooldown ≤ later →
    (beforeCall c later w.breaker).1 = none

def ProbePanics (w : World) : Event → Prop
  | .panic id => w.breaker.state = .halfOpen ∧ ∃ call ∈ w.running, call.id = id ∧ IsProbe w call
  | _ => False

theorem FlagHasProbe.step {c : Config} {w w' : World} {a : Event} (h : FlagHasProbe w)
    (ht : Tracked w) (hpanic : ¬ProbePanics w a) (hstep : Transition c w a w') :
    FlagHasProbe w' := by
  intro flag
  cases hstep with
  | tick | same | reject => exact h flag
  | expire => cases flag
  | admitClosed id hid hs =>
    obtain ⟨call, hcall, probe⟩ := h flag
    exact ⟨call, List.mem_cons_of_mem _ hcall, probe⟩
  | admitProbe id hid hs hp => exact ⟨_, List.mem_cons_self, rfl, rfl⟩
  | admitExpired id hid hexp =>
    exact ⟨_, List.mem_cons_self, rfl, (halfOpenPeriods_moveTo_halfOpen w.breaker w.now).symm⟩
  | probeFailed | probeSucceeded => cases flag
  | succeeded id err hid hs | counted id err hid hs =>
    exact absurd (ht.flagged flag) hs
  | tripped id err hid hs | tripsAgain id err hid hs =>
    exact absurd (ht.flagged flag) (by simp [hs])
  | panicked id hid =>
    obtain ⟨call, hcall, probe⟩ := h flag
    have other : call.id ≠ id := fun hid => hpanic ⟨ht.flagged flag, call, hcall, hid, probe⟩
    exact ⟨call, by simp [World.remove, hcall, other], probe⟩

theorem FlagHasProbe.recovers {w : World} (h : FlagHasProbe w) (ht : Tracked w) (c : Config) :
    Recovers c w := by
  intro idle later hlater
  have unflagged : w.breaker.probeInFlight = false := by
    by_contra flag
    rw [Bool.not_eq_false] at flag
    obtain ⟨call, hcall, -⟩ := h flag
    rw [idle] at hcall
    cases hcall
  cases hs : w.breaker.state with
  | closed => simp [beforeCall, refresh, hs]
  | halfOpen => simp [beforeCall, refresh, hs, unflagged]
  | «open» =>
    have opened := ht.opened hs
    have expired : c.cooldown ≤ later - w.breaker.openedAt := by omega
    simp [beforeCall, refresh, hs, expired, setState]

theorem not_probePanics {c : Config} {w w' : World} {a : Event} (ht : Tracked w)
    (hstep : Transition c w a w') (h : FlagHasProbe w') : ¬ProbePanics w a := by
  cases hstep with
  | panicked id hid =>
    rintro ⟨hs, call, hcall, rfl, probe⟩
    obtain ⟨other, hother, isProbe⟩ := h (ht.current hs call hcall probe)
    simp only [World.remove, List.mem_filter, decide_eq_true_eq] at hother
    have same := ht.single other hother.1 call hcall isProbe probe
    exact hother.2 (congrArg Call.id same)
  | _ => exact id

/-- Along any interleaving the flag stands for a running probe and the breaker
recovers, exactly when no panicking call is the probe of the current period. -/
theorem recovery_iff (c : Config) (now : Int) (as : List Event) :
    Always (step c) (fun w => FlagHasProbe w ∧ Recovers c w) (newWorld now) as ↔
      Along (step c) (fun w a _ => ¬ProbePanics w a) (newWorld now) as := by
  have start : FlagHasProbe (newWorld now) := by simp [FlagHasProbe, newWorld, newBreaker]
  constructor
  · rintro ⟨-, always⟩
    refine Along.of_invariant Tracked ?_ (tracked_new now) always
    rintro w a w' hstep ht ⟨hflag, _⟩
    have moved := step_transition hstep
    exact ⟨ht.step moved, not_probePanics ht moved hflag⟩
  · intro along
    refine ⟨⟨start, start.recovers (tracked_new now) c⟩, ?_⟩
    refine Along.of_invariant (fun w => Tracked w ∧ FlagHasProbe w) ?_
      ⟨tracked_new now, start⟩ along
    rintro w a w' hstep ⟨ht, hflag⟩ hpanic
    have moved := step_transition hstep
    have tracked := ht.step moved
    have flag := hflag.step ht hpanic moved
    exact ⟨⟨tracked, flag⟩, flag, flag.recovers tracked c⟩

instance (w : World) : Decidable (FlagHasProbe w) := inferInstanceAs (Decidable (_ → _))

/-- The probe panics: the flag stays up with nothing running. -/
theorem panic_wedges_breaker :
    ¬Always (step tripOnce) (fun w => FlagHasProbe w ∧ Recovers tripOnce w) (newWorld 0)
      [.start 1, .finish 1 boom, .tick 10, .start 2, .panic 2] := by
  rintro ⟨-, always⟩
  have flagged : Along (step tripOnce) (fun _ _ w' => FlagHasProbe w') (newWorld 0)
      [.start 1, .finish 1 boom, .tick 10, .start 2, .panic 2] :=
    Along.of_invariant (fun _ => True) (fun _ _ _ _ _ h => ⟨trivial, h.1⟩) trivial always
  revert flagged
  decide

end DxCommonGo.BreakerRecovery
