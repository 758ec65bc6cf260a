import Mathlib.Logic.Basic

/-! Runs of deterministic machines. `Along` states a property of every step, and `Always` one of
every state; both are proved from an invariant and a step lemma. A simulation gives equal `outputs`.
-/

namespace DxCommonGo.Runs

variable {σ τ α β : Type}

/-- Every step of the run satisfies `P`; an input without a step ends the run. -/
def Along (step : σ → α → Option σ) (P : σ → α → σ → Prop) : σ → List α → Prop
  | _, [] => True
  | s, a :: as =>
    match step s a with
    | none => True
    | some t => P s a t ∧ Along step P t as

def Always (step : σ → α → Option σ) (P : σ → Prop) (s : σ) (as : List α) : Prop :=
  P s ∧ Along step (fun _ _ t => P t) s as

def decideAlong (step : σ → α → Option σ) (P : σ → α → σ → Prop)
    (dec : ∀ s a t, Decidable (P s a t)) : (s : σ) → (as : List α) → Decidable (Along step P s as)
  | _, [] => isTrue trivial
  | s, a :: as =>
    match h : step s a with
    | none => isTrue (by simp [Along, h])
    | some t =>
      have := dec s a t
      have := decideAlong step P dec t as
      decidable_of_iff (P s a t ∧ Along step P t as) (by simp [Along, h])

instance (step : σ → α → Option σ) (P : σ → α → σ → Prop) [dec : ∀ s a t, Decidable (P s a t)]
    (s : σ) (as : List α) : Decidable (Along step P s as) :=
  decideAlong step P dec s as

instance (step : σ → α → Option σ) (P : σ → Prop) [DecidablePred P] (s : σ) (as : List α) :
    Decidable (Always step P s as) :=
  inferInstanceAs (Decidable (P s ∧ Along step (fun _ _ t => P t) s as))

variable {as : List α} {s : σ} {step : σ → α → Option σ}

/-- An invariant that each step with `P` keeps, and under which such a step
has `Q`, turns a run with `P` into a run with `Q`. -/
theorem Along.of_invariant {P Q : σ → α → σ → Prop} (I : σ → Prop)
    (h : ∀ s a t, step s a = some t → I s → P s a t → I t ∧ Q s a t) (hs : I s)
    (hp : Along step P s as) : Along step Q s as := by
  induction as generalizing s with
  | nil => trivial
  | cons a as ih =>
    simp only [Along] at hp ⊢
    split
    · trivial
    · rename_i t hstep
      rw [hstep] at hp
      obtain ⟨ht, hq⟩ := h s a t hstep hs hp.1
      exact ⟨hq, ih ht hp.2⟩

theorem Always.mono {P Q : σ → Prop} (h : ∀ s, P s → Q s) (hp : Always step P s as) :
    Always step Q s as := by
  refine ⟨h s hp.1, Along.of_invariant (fun _ => True) ?_ trivial hp.2⟩
  intro _ _ t _ _ ht
  exact ⟨trivial, h t ht⟩

theorem along_of_step {P : σ → α → σ → Prop} (h : ∀ s a t, step s a = some t → P s a t) (s : σ)
    (as : List α) : Along step P s as := by
  induction as generalizing s with
  | nil => trivial
  | cons a as ih =>
    simp only [Along]
    split
    · trivial
    · next t hstep => exact ⟨h s a t hstep, ih t⟩

theorem always_of_invariant {I : σ → Prop} (h : ∀ s a t, step s a = some t → I s → I t) (hs : I s)
    (as : List α) : Always step I s as := by
  refine ⟨hs, Along.of_invariant I ?_ hs (along_of_step (fun _ _ _ _ => trivial) s as)⟩
  intro s a t hstep held _
  exact ⟨h s a t hstep held, h s a t hstep held⟩

theorem Always.last {step : σ → α → Option σ} {P : σ → Prop} {s t : σ} {as : List α}
    (h : Always step P s as) (run : as.foldlM step s = some t) : P t := by
  induction as generalizing s with
  | nil =>
    cases run
    exact h.1
  | cons a as ih =>
    rw [List.foldlM_cons] at run
    obtain ⟨next, hstep, run⟩ := Option.bind_eq_some_iff.mp run
    have along := h.2
    simp only [Along, hstep] at along
    exact ih ⟨along.1, along.2⟩ run

theorem along_of_inputs {P : α → Prop} (h : ∀ a ∈ as, P a) (s : σ) :
    Along step (fun _ a _ => P a) s as := by
  induction as generalizing s with
  | nil => trivial
  | cons a as ih =>
    simp only [Along]
    split
    · trivial
    · exact ⟨h a List.mem_cons_self, ih (fun b hb => h b (List.mem_cons_of_mem a hb)) _⟩

def outputs (f : σ → α → β × σ) : σ → List α → List β
  | _, [] => []
  | s, a :: as => (f s a).1 :: outputs f (f s a).2 as

/-- Machines that a simulation relates behave alike on the inputs it allows. -/
theorem outputs_eq_of_allowed {f : σ → α → β × σ} {g : τ → α → β × τ} (R : σ → τ → Prop)
    (P : α → Prop) (h : ∀ s t a, P a → R s t → (f s a).1 = (g t a).1 ∧ R (f s a).2 (g t a).2)
    {t : τ} (hst : R s t) (allowed : ∀ a ∈ as, P a) : outputs f s as = outputs g t as := by
  induction as generalizing s t with
  | nil => rfl
  | cons a as ih =>
    obtain ⟨same, next⟩ := h s t a (allowed a List.mem_cons_self) hst
    rw [outputs, outputs, same, ih next fun b hb => allowed b (List.mem_cons_of_mem a hb)]

theorem outputs_eq_of_simulation {f : σ → α → β × σ} {g : τ → α → β × τ} (R : σ → τ → Prop)
    (h : ∀ s t a, R s t → (f s a).1 = (g t a).1 ∧ R (f s a).2 (g t a).2) {t : τ} (hst : R s t)
    (as : List α) : outputs f s as = outputs g t as :=
  outputs_eq_of_allowed R (fun _ => True) (fun s t a _ => h s t a) hst fun _ _ => trivial

end DxCommonGo.Runs
