import Mathlib.Logic.Basic

/-! Programs that call an environment: a program returns, panics, ends its goroutine, or performs an
operation and goes on with the reply. A handler answers from a state of its own. Nothing recovers a
panic. -/

namespace DxCommonGo.Programs

inductive Prog (Op : Type) (Reply : Op → Type) (α : Type) where
  | ret (a : α)
  | panic
  | goexit
  | call (op : Op) (next : Reply op → Prog Op Reply α)

inductive Ending (α : Type) where
  | returned (a : α)
  | panicked
  | exited

variable {Op : Type} {Reply : Op → Type} {ω α β : Type}

protected def Prog.bind : Prog Op Reply α → (α → Prog Op Reply β) → Prog Op Reply β
  | .ret a, f => f a
  | .panic, _ => .panic
  | .goexit, _ => .goexit
  | .call op next, f => .call op fun r => (next r).bind f

instance : Monad (Prog Op Reply) where
  pure := .ret
  bind := Prog.bind

theorem Prog.bind_bind {γ : Type} (p : Prog Op Reply α) (f : α → Prog Op Reply β)
    (g : β → Prog Op Reply γ) : (p >>= f) >>= g = p >>= fun a => f a >>= g := by
  induction p with
  | ret a => rfl
  | panic => rfl
  | goexit => rfl
  | call op next ih => exact congrArg (Prog.call op) (funext ih)

def perform (op : Op) : Prog Op Reply (Reply op) := .call op .ret

abbrev Handler (Op : Type) (Reply : Op → Type) (ω : Type) := (op : Op) → ω → Reply op × ω

def run (h : Handler Op Reply ω) : Prog Op Reply α → ω → Ending α × ω
  | .ret a, w => (.returned a, w)
  | .panic, w => (.panicked, w)
  | .goexit, w => (.exited, w)
  | .call op next, w => run h (next (h op w).1) (h op w).2

def Ending.andThen (h : Handler Op Reply ω) (f : α → Prog Op Reply β) :
    Ending α × ω → Ending β × ω
  | (.returned a, w) => run h (f a) w
  | (.panicked, w) => (.panicked, w)
  | (.exited, w) => (.exited, w)

theorem run_bind (h : Handler Op Reply ω) (p : Prog Op Reply α) (f : α → Prog Op Reply β) (w : ω) :
    run h (p >>= f) w = Ending.andThen h f (run h p w) := by
  induction p generalizing w with
  | ret a => rfl
  | panic => rfl
  | goexit => rfl
  | call op next ih => exact ih (h op w).1 (h op w).2

variable {f : α → Prog Op Reply β} {h : Handler Op Reply ω} {p : Prog Op Reply α} {w : ω}
  {P : α → Prop}

theorem run_bind_returned {w'' : ω} {b : β} :
    run h (p >>= f) w = (.returned b, w'') ↔
      ∃ a w', run h p w = (.returned a, w') ∧ run h (f a) w' = (.returned b, w'') := by
  rw [run_bind]
  rcases run h p w with ⟨ending, w'⟩
  cases ending with
  | returned a =>
    constructor
    · exact fun done => ⟨a, w', rfl, done⟩
    · rintro ⟨_, _, ⟨⟩, done⟩
      exact done
  | panicked => simp [Ending.andThen]
  | exited => simp [Ending.andThen]

theorem run_relation {R : ω → ω → Prop} (refl : ∀ w, R w w) (trans : ∀ u v w, R u v → R v w → R u w)
    (step : ∀ op w, R w (h op w).2) (p : Prog Op Reply α) (w : ω) : R w (run h p w).2 := by
  induction p generalizing w with
  | ret | panic | goexit => exact refl w
  | call op next ih => exact trans _ _ _ (step op w) (ih (h op w).1 (h op w).2)

/-- Every value the program can return satisfies `P`, whatever the replies. -/
def Post (P : α → Prop) : Prog Op Reply α → Prop
  | .ret a => P a
  | .panic => True
  | .goexit => True
  | .call _ next => ∀ r, Post P (next r)

theorem post_bind {P : β → Prop} {Q : α → Prop} (hp : Post Q p) (hf : ∀ a, Q a → Post P (f a)) :
    Post P (p >>= f) := by
  induction p with
  | ret a => exact hf a hp
  | panic => trivial
  | goexit => trivial
  | call op next ih => exact fun r => ih r (hp r)

theorem post_perform_bind {P : β → Prop} {op : Op} {f : Reply op → Prog Op Reply β}
    (hf : ∀ r, Post P (f r)) : Post P (perform op >>= f) := hf

theorem Post.mono {Q : α → Prop} (h : ∀ a, P a → Q a) (hp : Post P p) : Post Q p := by
  induction p with
  | ret a => exact h a hp
  | panic => trivial
  | goexit => trivial
  | call op next ih => exact fun r => ih r (hp r)

theorem post_of_forall (h : ∀ a, P a) (p : Prog Op Reply α) : Post P p := by
  induction p with
  | ret a => exact h a
  | panic => trivial
  | goexit => trivial
  | call op next ih => exact ih

theorem post_returned (hp : Post P p) {w' : ω} {a : α} (hrun : run h p w = (.returned a, w')) :
    P a := by
  induction p generalizing w with
  | ret b =>
    cases hrun
    exact hp
  | panic => cases hrun
  | goexit => cases hrun
  | call op next ih => exact ih (h op w).1 (hp _) hrun

/-- The program returns, and every operation it can perform satisfies `P`. -/
def Performs (P : Op → Prop) : Prog Op Reply α → Prop
  | .ret _ => True
  | .panic => False
  | .goexit => False
  | .call op next => P op ∧ ∀ r, Performs P (next r)

variable {P : Op → Prop}

theorem performs_bind (hp : Performs P p) (hf : ∀ a, Performs P (f a)) : Performs P (p >>= f) := by
  induction p with
  | ret a => exact hf a
  | panic => exact hp
  | goexit => exact hp
  | call op next ih => exact ⟨hp.1, fun r => ih r (hp.2 r)⟩

theorem performs_perform_bind {op : Op} {f : Reply op → Prog Op Reply β} (hop : P op)
    (hf : ∀ r, Performs P (f r)) : Performs P (perform op >>= f) := ⟨hop, hf⟩

theorem Performs.mono {Q : Op → Prop} (h : ∀ op, P op → Q op) (hp : Performs P p) :
    Performs Q p := by
  induction p with
  | ret a => trivial
  | panic => exact hp
  | goexit => exact hp
  | call op next ih => exact ⟨h op hp.1, fun r => ih r (hp.2 r)⟩

theorem Performs.run_returned (hp : Performs P p) (h : Handler Op Reply ω) (w : ω) :
    ∃ a w', run h p w = (.returned a, w') := by
  induction p generalizing w with
  | ret a => exact ⟨a, w, rfl⟩
  | panic => exact hp.elim
  | goexit => exact hp.elim
  | call op next ih => exact ih _ (hp.2 _) _

def trace (h : Handler Op Reply ω) : Prog Op Reply α → ω → List Op
  | .ret _, _ => []
  | .panic, _ => []
  | .goexit, _ => []
  | .call op next, w => op :: trace h (next (h op w).1) (h op w).2

theorem trace_bind {w' : ω} {a : α} (hp : run h p w = (.returned a, w')) (f : α → Prog Op Reply β) :
    trace h (p >>= f) w = trace h p w ++ trace h (f a) w' := by
  induction p generalizing w with
  | ret b =>
    cases hp
    rfl
  | panic => cases hp
  | goexit => cases hp
  | call op next ih => exact congrArg (op :: ·) (ih _ hp)

theorem Performs.trace_mem (hp : Performs P p) (h : Handler Op Reply ω) (w : ω) :
    ∀ op ∈ trace h p w, P op := by
  induction p generalizing w with
  | ret | panic | goexit => simp [trace]
  | call op next ih =>
    intro op' hop'
    rcases List.mem_cons.mp hop' with rfl | hrest
    · exact hp.1
    · exact ih _ (hp.2 _) _ op' hrest

/-- The program returns, and its operations, its value and the state it leaves
satisfy `post`. -/
def Meets (h : Handler Op Reply ω) (post : List Op → α → ω → Prop) (p : Prog Op Reply α) (w : ω) :
    Prop :=
  ∃ a w', run h p w = (.returned a, w') ∧ post (trace h p w) a w'

theorem meets_pure {post : List Op → α → ω → Prop} {a : α} (done : post [] a w) :
    Meets h post (pure a) w := ⟨a, w, rfl, done⟩

theorem meets_perform_bind {post : List Op → α → ω → Prop} {op : Op} {r : Reply op} {w' : ω}
    (answered : h op w = (r, w')) {f : Reply op → Prog Op Reply α}
    (rest : Meets h (fun ops => post (op :: ops)) (f r) w') :
    Meets h post (perform op >>= f) w := by
  change ∃ a w'', run h (f (h op w).1) (h op w).2 = (.returned a, w'') ∧
    post (op :: trace h (f (h op w).1) (h op w).2) a w''
  rw [answered]
  exact rest

/-- What is observed of the state after a program is the fold of what each of its
operations does to the observation. -/
theorem Performs.run_observed (hp : Performs P p) (f : ω → β) (g : β → Op → β)
    (step : ∀ op w, P op → f (h op w).2 = g (f w) op) (w : ω) :
    f (run h p w).2 = (trace h p w).foldl g (f w) := by
  induction p generalizing w with
  | ret a => rfl
  | panic => rfl
  | goexit => rfl
  | call op next ih =>
    rw [trace, List.foldl_cons, ← step op w hp.1]
    exact ih _ (hp.2 _) _

/-- The program can return `a` when each of its operations gets some reply that
`answers` allows. -/
def Possible (answers : (op : Op) → Reply op → Prop) (a : α) : Prog Op Reply α → Prop
  | .ret b => b = a
  | .panic => False
  | .goexit => False
  | .call op next => ∃ r, answers op r ∧ Possible answers a (next r)

theorem Possible.mono {A B : (op : Op) → Reply op → Prop} (h : ∀ op r, A op r → B op r) {a : α}
    (hp : Possible A a p) : Possible B a p := by
  induction p with
  | ret b => exact hp
  | panic => exact hp
  | goexit => exact hp
  | call op next ih =>
    obtain ⟨r, hr, hnext⟩ := hp
    exact ⟨r, h op r hr, ih r hnext⟩

end DxCommonGo.Programs
