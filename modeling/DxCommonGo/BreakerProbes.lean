import DxCommonGo.BreakerWorld

/-! Invariants of every run of a breaker: who can be the probe of the current half-open period, and
when the flag says there is one. -/

namespace DxCommonGo.BreakerProbes
open CircuitBreaker BreakerWorld

def IsProbe (w : World) (call : Call) : Prop :=
  call.admitted = .halfOpen ∧ call.period = halfOpenPeriods w.breaker

instance (w : World) (call : Call) : Decidable (IsProbe w call) :=
  inferInstanceAs (Decidable (_ ∧ _))

structure Tracked (w : World) : Prop where
  ids : (w.running.map Call.id).Nodup
  periods : ∀ call ∈ w.running, call.period ≤ halfOpenPeriods w.breaker
  flagged : w.breaker.probeInFlight = true → w.breaker.state = .halfOpen
  current : w.breaker.state = .halfOpen → ∀ call ∈ w.running, IsProbe w call →
    w.breaker.probeInFlight = true
  single : ∀ x ∈ w.running, ∀ y ∈ w.running, IsProbe w x → IsProbe w y → x = y
  opened : w.breaker.state = .open → w.breaker.openedAt ≤ w.now

theorem tracked_new (now : Int) : Tracked (newWorld now) where
  ids := List.nodup_nil
  periods := by simp [newWorld]
  flagged := by simp [newWorld, newBreaker]
  current := by simp [newWorld]
  single := by simp [newWorld]
  opened := by simp [newWorld, newBreaker]

theorem Tracked.shrink {w w' : World} (h : Tracked w) (hsub : w'.running.Sublist w.running)
    (hperiods : halfOpenPeriods w'.breaker = halfOpenPeriods w.breaker)
    (hflag : w'.breaker.probeInFlight = true → w'.breaker.state = .halfOpen)
    (hcurrent : w'.breaker.state = .halfOpen →
      w.breaker.state = .halfOpen ∧ w'.breaker.probeInFlight = w.breaker.probeInFlight)
    (hopened : w'.breaker.state = .open → w'.breaker.openedAt ≤ w'.now) : Tracked w' where
  ids := h.ids.sublist (hsub.map _)
  periods call hcall := hperiods ▸ h.periods call (hsub.subset hcall)
  flagged := hflag
  current hs call hcall hprobe := by
    obtain ⟨hopen, hsame⟩ := hcurrent hs
    have before : IsProbe w call := ⟨hprobe.1, hperiods ▸ hprobe.2⟩
    rw [hsame]
    exact h.current hopen call (hsub.subset hcall) before
  single x hx y hy px py := by
    have before : ∀ z, IsProbe w' z → IsProbe w z := fun z pz => ⟨pz.1, hperiods ▸ pz.2⟩
    exact h.single x (hsub.subset hx) y (hsub.subset hy) (before x px) (before y py)
  opened := hopened

theorem Tracked.no_probe {w : World} (h : Tracked w) (hs : w.breaker.state = .halfOpen)
    (hp : w.breaker.probeInFlight = false) : ∀ call ∈ w.running, ¬IsProbe w call := by
  intro call hcall probe
  have flag := h.current hs call hcall probe
  rw [hp] at flag
  cases flag

theorem Tracked.no_probe_of_later {w w' : World} (h : Tracked w)
    (hperiods : halfOpenPeriods w'.breaker = halfOpenPeriods w.breaker + 1) :
    ∀ call ∈ w.running, ¬IsProbe w' call := by
  intro call hcall probe
  have bound := h.periods call hcall
  have later := probe.2
  omega

theorem Tracked.admit {w w' : World} (h : Tracked w) {id : Nat} (hid : w.isRunning id = false)
    (hrunning : w'.running = ⟨id, .halfOpen, halfOpenPeriods w'.breaker⟩ :: w.running)
    (hperiods : halfOpenPeriods w.breaker ≤ halfOpenPeriods w'.breaker)
    (hs : w'.breaker.state = .halfOpen) (hp : w'.breaker.probeInFlight = true)
    (hothers : ∀ call ∈ w.running, ¬IsProbe w' call) : Tracked w' where
  ids := by
    rw [hrunning]
    exact List.nodup_cons.mpr ⟨not_mem_of_not_running hid, h.ids⟩
  periods := by
    rw [hrunning]
    intro call hcall
    rcases List.mem_cons.mp hcall with rfl | hcall
    · exact Nat.le_refl _
    · exact (h.periods call hcall).trans hperiods
  flagged _ := hs
  current _ _ _ _ := hp
  single := by
    rw [hrunning]
    intro x hx y hy px py
    rcases List.mem_cons.mp hx with rfl | hx
    · rcases List.mem_cons.mp hy with rfl | hy
      · rfl
      · exact absurd py (hothers y hy)
    · exact absurd px (hothers x hx)
  opened hopen := by
    rw [hs] at hopen
    cases hopen

theorem Tracked.admitClosed {w : World} (h : Tracked w) {id : Nat}
    (hid : w.isRunning id = false) (hs : w.breaker.state = .closed) :
    Tracked { w with running := ⟨id, .closed, halfOpenPeriods w.breaker⟩ :: w.running } where
  ids := List.nodup_cons.mpr ⟨not_mem_of_not_running hid, h.ids⟩
  periods := by simpa using h.periods
  flagged := h.flagged
  current hopen := by
    rw [hs] at hopen
    cases hopen
  single x hx y hy px py := by
    have old : ∀ z, z ∈ (⟨id, .closed, halfOpenPeriods w.breaker⟩ : Call) :: w.running →
        IsProbe w z → z ∈ w.running := by
      intro z hz pz
      rcases List.mem_cons.mp hz with rfl | hz
      · cases pz.1
      · exact hz
    exact h.single x (old x hx px) y (old y hy py) px py
  opened := h.opened

theorem Tracked.step {c : Config} {w w' : World} {a : Event} (h : Tracked w)
    (ht : Transition c w a w') : Tracked w' := by
  cases ht with
  | tick d =>
    refine h.shrink (List.Sublist.refl _) rfl h.flagged (fun hs => ⟨hs, rfl⟩) fun hs => ?_
    have before := h.opened hs
    dsimp only
    omega
  | same | reject => exact h
  | expire hexp =>
    have grown := halfOpenPeriods_moveTo_halfOpen w.breaker w.now
    have later : ∀ call ∈ w.running, ¬IsProbe { w with
        breaker := { moveTo w.breaker .halfOpen w.now with probeInFlight := false } } call :=
      h.no_probe_of_later grown
    refine ⟨h.ids, fun call hcall => ?_, by simp, fun _ call hcall probe => ?_,
      fun x hx _ _ px _ => absurd px (later x hx), by simp [moveTo]⟩
    · exact (h.periods call hcall).trans ((Nat.le_succ _).trans grown.ge)
    · exact absurd probe (later call hcall)
  | admitClosed id hid hs => exact h.admitClosed hid hs
  | admitProbe id hid hs hp =>
    exact h.admit hid rfl (Nat.le_refl _) hs rfl (h.no_probe hs hp)
  | admitExpired id hid hexp =>
    have grown := halfOpenPeriods_moveTo_halfOpen w.breaker w.now
    refine h.admit hid ?_ ((Nat.le_succ _).trans grown.ge) rfl rfl (h.no_probe_of_later grown)
    exact congrArg (fun n => (⟨id, .halfOpen, n⟩ : Call) :: w.running) grown.symm
  | probeFailed id err hid hs hf =>
    exact h.shrink (remove_sublist w id) (by simp [halfOpenPeriods, moveTo]) (by simp)
      (by simp [moveTo]) (by simp)
  | probeSucceeded id err hid hs hf =>
    exact h.shrink (remove_sublist w id) (by simp [halfOpenPeriods, moveTo]) (by simp)
      (by simp [moveTo]) (by simp [moveTo])
  | succeeded id err hid hs hf =>
    exact h.shrink (remove_sublist w id) rfl h.flagged (fun hs => ⟨hs, rfl⟩) h.opened
  | counted id err hid hs hf hlt =>
    exact h.shrink (remove_sublist w id) rfl h.flagged (fun hs => ⟨hs, rfl⟩) h.opened
  | tripped id err hid hs hf hle =>
    refine h.shrink (remove_sublist w id) (by simp [halfOpenPeriods, moveTo]) ?_
      (by simp [moveTo]) (by simp)
    intro flag
    have state := h.flagged flag
    rw [hs] at state
    cases state
  | tripsAgain id err hid hs hf hle =>
    exact h.shrink (remove_sublist w id) rfl h.flagged (fun hs => ⟨hs, rfl⟩) (by simp)
  | panicked id hid =>
    exact h.shrink (remove_sublist w id) rfl h.flagged (fun hs => ⟨hs, rfl⟩) h.opened

end DxCommonGo.BreakerProbes
