import DxCommonGo.BreakerProbes

/-! The half-open state under concurrent calls. `afterCall` looks at the state it finds, so a call
admitted while closed that completes while half-open ends the period in the probe's place. -/

namespace DxCommonGo.BreakerHalfOpen
open DxErrors CircuitBreaker BreakerWorld BreakerProbes Runs

def Exclusive (w : World) : Prop :=
  (w.running.filter fun call => call.admitted = .halfOpen).length ≤ 1

def Decides (c : Config) (call : Call) (w' : World) : Event → Prop
  | .finish id err =>
    id = call.id ∧ w'.breaker.state = if failure c err then State.open else State.closed
  | _ => False

def LeftByProbe (c : Config) (w : World) (a : Event) (w' : World) : Prop :=
  w.breaker.state = .halfOpen → w'.breaker.state ≠ .halfOpen →
    ∃ call ∈ w.running, IsProbe w call ∧ Decides c call w' a

/-- A completion that finds the breaker half-open is that of a call admitted
while half-open. -/
def Timely (w : World) : Event → Prop
  | .finish id _ => w.breaker.state = .halfOpen →
      ∀ call ∈ w.running, call.id = id → call.admitted = .halfOpen
  | _ => True

/-- Every running call admitted while half-open is the probe of the current
period, which has not ended. -/
def Orderly (w : World) : Prop :=
  ∀ call ∈ w.running, call.admitted = .halfOpen →
    w.breaker.state = .halfOpen ∧ call.period = halfOpenPeriods w.breaker

variable {w w' : World} {c : Config}

theorem eq_of_id (h : Tracked w) {x y : Call} (hx : x ∈ w.running) (hy : y ∈ w.running)
    (hid : x.id = y.id) : x = y :=
  List.inj_on_of_nodup_map h.ids hx hy hid

theorem mem_remove {id : Nat} {call : Call} :
    call ∈ w.remove id ↔ call ∈ w.running ∧ call.id ≠ id := by
  simp [World.remove]

theorem Orderly.remove_probe (h : Orderly w) (ht : Tracked w) {id : Nat}
    (hid : w.isRunning id = true) (hs : w.breaker.state = .halfOpen) {err : Option GoError}
    (htimely : Timely w (.finish id err)) : ∀ call ∈ w.remove id, call.admitted ≠ .halfOpen := by
  intro call hcall hadmitted
  obtain ⟨hrunning, hother⟩ := mem_remove.mp hcall
  obtain ⟨probe, hprobe, rfl⟩ := exists_of_running hid
  have probed := htimely hs probe hprobe rfl
  have same := ht.single call hrunning probe hprobe ⟨hadmitted, (h call hrunning hadmitted).2⟩
    ⟨probed, (h probe hprobe probed).2⟩
  exact hother (congrArg Call.id same)

theorem Orderly.step {c : Config} {w w' : World} {a : Event} (h : Orderly w) (ht : Tracked w)
    (htimely : Timely w a) (hstep : Transition c w a w') : Orderly w' := by
  have kept : ∀ id, ∀ call ∈ w.remove id, call.admitted = .halfOpen →
      w.breaker.state = .halfOpen ∧ call.period = halfOpenPeriods w.breaker :=
    fun id call hcall => h call (mem_remove.mp hcall).1
  cases hstep with
  | tick d => exact h
  | same | reject => exact h
  | expire hexp =>
    intro call hcall hadmitted
    have state := (h call hcall hadmitted).1
    rw [hexp.1] at state
    cases state
  | admitClosed id hid hs =>
    intro call hcall hadmitted
    rcases List.mem_cons.mp hcall with rfl | hcall
    · cases hadmitted
    · exact h call hcall hadmitted
  | admitProbe id hid hs hp =>
    intro call hcall hadmitted
    rcases List.mem_cons.mp hcall with rfl | hcall
    · exact ⟨hs, rfl⟩
    · exact h call hcall hadmitted
  | admitExpired id hid hexp =>
    intro call hcall hadmitted
    rcases List.mem_cons.mp hcall with rfl | hcall
    · exact ⟨rfl, (halfOpenPeriods_moveTo_halfOpen w.breaker w.now).symm⟩
    · have state := (h call hcall hadmitted).1
      rw [hexp.1] at state
      cases state
  | probeFailed id err hid hs | probeSucceeded id err hid hs =>
    intro call hcall hadmitted
    exact absurd hadmitted (h.remove_probe ht hid hs htimely call hcall)
  | succeeded id | counted id | panicked id => exact kept id
  | tripped id err hid hs | tripsAgain id err hid hs =>
    intro call hcall hadmitted
    exact absurd (kept id call hcall hadmitted).1 (by simp [hs])

private theorem length_le_one {l : List Call} (hl : l.Nodup)
    (h : ∀ x ∈ l, ∀ y ∈ l, x = y) : l.length ≤ 1 := by
  by_contra long
  obtain ⟨i, j, hij⟩ : ∃ i j : Fin l.length, i ≠ j := ⟨⟨0, by omega⟩, ⟨1, by omega⟩, by simp⟩
  exact hij (hl.injective_get (h _ (l.get_mem i) _ (l.get_mem j)))

theorem Orderly.exclusive (h : Orderly w) (ht : Tracked w) : Exclusive w := by
  have distinct : w.running.Nodup := List.Nodup.of_map _ ht.ids
  apply length_le_one (distinct.filter _)
  intro x hx y hy
  simp only [List.mem_filter, decide_eq_true_eq] at hx hy
  exact ht.single x hx.1 y hy.1 ⟨hx.2, (h x hx.1 hx.2).2⟩ ⟨hy.2, (h y hy.1 hy.2).2⟩

theorem finish_leaves {id : Nat} {err : Option GoError} (hstep : Transition c w (.finish id err) w')
    (hs : w.breaker.state = .halfOpen) :
    w'.breaker.state = if failure c err then State.open else State.closed := by
  cases hstep with
  | probeFailed _ _ _ _ hf => simp [hf, moveTo]
  | probeSucceeded _ _ _ _ hf => simp [hf, moveTo]
  | succeeded _ _ _ hne | counted _ _ _ hne => exact absurd hs hne
  | tripped _ _ _ hc => rw [hs] at hc; cases hc
  | tripsAgain _ _ _ ho => rw [hs] at ho; cases ho

theorem leaves_only_by_finish {a : Event} (hstep : Transition c w a w')
    (hs : w.breaker.state = .halfOpen) (hs' : w'.breaker.state ≠ .halfOpen) :
    ∃ id err, a = .finish id err ∧ w.isRunning id = true := by
  cases hstep with
  | probeFailed id err hid | probeSucceeded id err hid => exact ⟨id, err, rfl, hid⟩
  | succeeded id err hid | counted id err hid => exact ⟨id, err, rfl, hid⟩
  | tripped id err hid | tripsAgain id err hid => exact ⟨id, err, rfl, hid⟩
  | tick | same | reject | admitClosed | admitProbe | panicked => exact absurd hs hs'
  | expire | admitExpired => exact absurd rfl hs'

theorem Orderly.leftByProbe {a : Event} (h : Orderly w) (htimely : Timely w a)
    (hstep : Transition c w a w') : LeftByProbe c w a w' := by
  intro hs hs'
  obtain ⟨id, err, rfl, hid⟩ := leaves_only_by_finish hstep hs hs'
  obtain ⟨call, hcall, rfl⟩ := exists_of_running hid
  have admitted := htimely hs call hcall rfl
  exact ⟨call, hcall, ⟨admitted, (h call hcall admitted).2⟩, rfl, finish_leaves hstep hs⟩

theorem timely_of_leftByProbe {a : Event} (ht : Tracked w) (hstep : Transition c w a w')
    (h : LeftByProbe c w a w') : Timely w a := by
  cases a with
  | finish id err =>
    intro hs call hcall hid
    have left : w'.breaker.state ≠ .halfOpen := by
      rw [finish_leaves hstep hs]
      cases failure c err <;> decide
    obtain ⟨probe, hprobe, isProbe, sameId, -⟩ := h hs left
    rw [eq_of_id ht hcall hprobe (hid.trans sameId)]
    exact isProbe.1
  | tick | observe | start | panic => trivial

/-- Along any interleaving the half-open state admits one running call and is
left only by its probe, exactly when every completion that finds it half-open
is that of a call admitted while half-open. -/
theorem halfOpen_exclusive_iff (c : Config) (now : Int) (as : List Event) :
    Along (step c) (fun w a w' => Exclusive w' ∧ LeftByProbe c w a w') (newWorld now) as ↔
      Along (step c) (fun w a _ => Timely w a) (newWorld now) as := by
  constructor
  · apply Along.of_invariant Tracked
    · rintro w a w' hstep ht ⟨_, hleft⟩
      have moved := step_transition hstep
      exact ⟨ht.step moved, timely_of_leftByProbe ht moved hleft⟩
    · exact tracked_new now
  · apply Along.of_invariant fun w => Tracked w ∧ Orderly w
    · rintro w a w' hstep ⟨ht, ho⟩ htimely
      have moved := step_transition hstep
      have tracked := ht.step moved
      have orderly := ho.step ht htimely moved
      exact ⟨⟨tracked, orderly⟩, orderly.exclusive tracked, ho.leftByProbe htimely moved⟩
    · exact ⟨tracked_new now, by simp [Orderly, newWorld]⟩

instance (c : Config) (call : Call) (w' : World) (a : Event) : Decidable (Decides c call w' a) :=
  match a with
  | .finish _ _ => inferInstanceAs (Decidable (_ ∧ _))
  | .tick _ | .observe | .start _ | .panic _ => inferInstanceAs (Decidable False)

instance (w : World) : Decidable (Exclusive w) := inferInstanceAs (Decidable (_ ≤ _))

instance (c : Config) (w : World) (a : Event) (w' : World) : Decidable (LeftByProbe c w a w') :=
  inferInstanceAs (Decidable (_ → _ → _))

/-- Two calls are admitted while closed; the first one trips the breaker, and
the second one returns while a probe is running and closes it. -/
theorem late_success_ends_period :
    ¬Along (step tripOnce) (fun w a w' => Exclusive w' ∧ LeftByProbe tripOnce w a w') (newWorld 0)
      [.start 1, .start 2, .finish 1 boom, .tick 10, .start 3, .finish 2 none] := by
  decide

end DxCommonGo.BreakerHalfOpen
