import DxCommonGo.Threads
import DxCommonGo.Runs
import Mathlib.Data.List.Induction

/-! Programs interleaved on an environment that makes choices, can keep an operation waiting and
acts on its own, and a rely-guarantee logic for them: a thread is safe as long as the others change
the state only as it relies on. -/

namespace DxCommonGo.RelyGuarantee
open Programs Threads Runs

/-- `answer` is the reply to an operation under a choice, or `none` if it has to wait; `act` is what
the environment does by itself, and `again` how a thread goes on at the end of a loop body. -/
structure Env (ι Op : Type) (Reply : Op → Type) (α χ ε ω : Type) where
  answer : ι → (op : Op) → χ → ω → Option (Reply op × ω)
  act : ε → ω → Option ω
  again : ι → α → Option (Prog Op Reply α)

inductive Input (ι χ ε : Type) where
  | turn (i : ι) (x : χ)
  | event (e : ε)

variable {ι Op : Type} {Reply : Op → Type} {α β χ ε ω : Type}

section Interleaving

variable [DecidableEq ι]

def Env.step (env : Env ι Op Reply α χ ε ω) (s : System ι Op Reply α ω) :
    Input ι χ ε → Option (System ι Op Reply α ω)
  | .turn i x =>
    match s.threads i with
    | .call op next =>
      (env.answer i op x s.world).map fun r => ⟨Function.update s.threads i (next r.1), r.2⟩
    | .ret a => (env.again i a).map fun p => ⟨Function.update s.threads i p, s.world⟩
    | _ => none
  | .event e => (env.act e s.world).map fun w => ⟨s.threads, w⟩

inductive Transition (env : Env ι Op Reply α χ ε ω) (s : System ι Op Reply α ω) :
    Input ι χ ε → System ι Op Reply α ω → Prop where
  | answered {i : ι} {x : χ} {op : Op} {next : Reply op → Prog Op Reply α} {r : Reply op}
      {w : ω} : s.threads i = .call op next → env.answer i op x s.world = some (r, w) →
      Transition env s (.turn i x) ⟨Function.update s.threads i (next r), w⟩
  | resumed {i : ι} {x : χ} {a : α} {p : Prog Op Reply α} : s.threads i = .ret a →
      env.again i a = some p →
      Transition env s (.turn i x) ⟨Function.update s.threads i p, s.world⟩
  | acted {e : ε} {w : ω} : env.act e s.world = some w →
      Transition env s (.event e) ⟨s.threads, w⟩

variable {env : Env ι Op Reply α χ ε ω}

theorem step_transition {s t : System ι Op Reply α ω} {a : Input ι χ ε}
    (h : env.step s a = some t) : Transition env s a t := by
  cases a with
  | turn i x =>
    simp only [Env.step] at h
    split at h
    · next op next same =>
      obtain ⟨r, answered, rfl⟩ := Option.map_eq_some_iff.mp h
      exact .answered same answered
    · next b same =>
      obtain ⟨p, again, rfl⟩ := Option.map_eq_some_iff.mp h
      exact .resumed same again
    · cases h
  | event e =>
    obtain ⟨w, acted, rfl⟩ := Option.map_eq_some_iff.mp h
    exact .acted acted

/-- What becomes of a thread and the state when the thread alone takes turns. -/
def Env.alone (env : Env ι Op Reply α χ ε ω) (i : ι) :
    Prog Op Reply α → List χ → ω → Option (Prog Op Reply α × ω)
  | p, [], w => some (p, w)
  | .call op next, x :: xs, w => (env.answer i op x w).bind fun r => env.alone i (next r.1) xs r.2
  | _, _ :: _, _ => none

omit [DecidableEq ι] in
theorem alone_nil (env : Env ι Op Reply α χ ε ω) (i : ι) (p : Prog Op Reply α) (w : ω) :
    env.alone i p [] w = some (p, w) := by
  cases p <;> rfl

theorem foldlM_alone {i : ι} {threads : ι → Prog Op Reply α} {p : Prog Op Reply α} {xs : List χ}
    {w w' : ω} (h : env.alone i (threads i) xs w = some (p, w')) :
    (xs.map (Input.turn i)).foldlM env.step ⟨threads, w⟩ =
      some ⟨Function.update threads i p, w'⟩ := by
  induction xs generalizing threads w with
  | nil =>
    simp only [Env.alone, Option.some.injEq, Prod.mk.injEq] at h
    simp [← h.1, ← h.2]
  | cons x xs ih =>
    cases same : threads i with
    | call op next =>
      rw [same] at h
      obtain ⟨r, answered, rest⟩ := Option.bind_eq_some_iff.mp h
      have step : env.step ⟨threads, w⟩ (.turn i x) =
          some ⟨Function.update threads i (next r.1), r.2⟩ := by
        simp [Env.step, same, answered]
      have after : (xs.map (Input.turn i)).foldlM env.step
          ⟨Function.update threads i (next r.1), r.2⟩ =
            some ⟨Function.update (Function.update threads i (next r.1)) i p, w'⟩ :=
        ih (by simpa using rest)
      rw [List.map_cons, List.foldlM_cons, step]
      simpa using after
    | ret a =>
      rw [same] at h
      cases h
    | panic =>
      rw [same] at h
      cases h
    | goexit =>
      rw [same] at h
      cases h

/-- Threads run one after the other, each to its end: what `P` says of the state after one is what
the next starts from. -/
theorem exists_sequential {threads : ι → Prog Op Reply α} {P : List ι → ω → Prop} {Q : α → Prop}
    {w : ω} (start : P [] w) {order : List ι} (distinct : order.Nodup)
    (each : ∀ done i w, done ++ [i] <+: order → P done w → ∃ xs a w',
      env.alone i (threads i) xs w = some (.ret a, w') ∧ Q a ∧ P (done ++ [i]) w') :
    ∃ (inputs : List (Input ι χ ε)) (s : System ι Op Reply α ω),
      inputs.foldlM env.step ⟨threads, w⟩ = some s ∧
      (∀ i ∈ order, ∃ a, s.threads i = .ret a ∧ Q a) ∧ (∀ i, i ∉ order → s.threads i = threads i) ∧
      P order s.world := by
  induction order using List.reverseRecOn with
  | nil => exact ⟨[], ⟨threads, w⟩, rfl, by simp, fun _ _ => rfl, start⟩
  | append_singleton order i ih =>
    obtain ⟨before, -, apart⟩ := List.nodup_append.mp distinct
    have absent : i ∉ order := fun h => apart i h i List.mem_cons_self rfl
    obtain ⟨inputs, s, run, ended, waiting, held⟩ := ih before fun done j w pre =>
      each done j w (pre.trans (List.prefix_append _ _))
    obtain ⟨xs, a, w', alone, result, held'⟩ := each order i s.world (List.prefix_refl _) held
    rw [← waiting i absent] at alone
    refine ⟨inputs ++ xs.map (Input.turn i), ⟨Function.update s.threads i (.ret a), w'⟩, ?_, ?_,
      ?_, held'⟩
    · rw [List.foldlM_append, run]
      exact foldlM_alone alone
    · intro j member
      by_cases same : j = i
      · subst same
        exact ⟨a, Function.update_self .., result⟩
      · obtain ⟨b, returned, hb⟩ := ended j (by simpa [same] using member)
        exact ⟨b, (Function.update_of_ne same _ _).trans returned, hb⟩
    · intro j other
      obtain ⟨notBefore, same⟩ : j ∉ order ∧ j ≠ i := by simpa using other
      exact (Function.update_of_ne same _ _).trans (waiting j notBefore)

end Interleaving

/-- The invariant of the state, the changes by others a thread relies on, and
what holds whenever a thread is at an operation. -/
structure Contract (ι Op ω : Type) where
  inv : ω → Prop
  rely : ι → ω → ω → Prop
  pre : ι → Op → ω → Prop

def Contract.Allows (c : Contract ι Op ω) (i : ι) (w w' : ω) : Prop :=
  c.inv w' ∧ ∀ j, j ≠ i → c.rely j w w'

def Safe (env : Env ι Op Reply β χ ε ω) (c : Contract ι Op ω) (i : ι) (post : α → ω → Prop) :
    Prog Op Reply α → ω → Prop
  | .ret a, w => ∀ w', c.inv w' → c.rely i w w' → post a w'
  | .panic, _ => False
  | .goexit, _ => False
  | .call op next, w => ∀ w', c.inv w' → c.rely i w w' → c.pre i op w' ∧
      ∀ x r w'', env.answer i op x w' = some (r, w'') →
        c.Allows i w' w'' ∧ Safe env c i post (next r) w''

/-- Reliance is a preorder, events keep the contract, and a finished loop body
leaves a state in which the thread can go on. -/
structure Coherent (env : Env ι Op Reply α χ ε ω) (c : Contract ι Op ω) (post : ι → α → ω → Prop) :
    Prop where
  refl : ∀ i w, c.rely i w w
  trans : ∀ i u v w, c.rely i u v → c.rely i v w → c.rely i u w
  act : ∀ e w w', c.inv w → env.act e w = some w' → c.inv w' ∧ ∀ i, c.rely i w w'
  again : ∀ i a p w, c.inv w → post i a w → env.again i a = some p →
    Safe env c i (post i) p w

def AllSafe (env : Env ι Op Reply α χ ε ω) (c : Contract ι Op ω) (post : ι → α → ω → Prop)
    (s : System ι Op Reply α ω) : Prop :=
  c.inv s.world ∧ ∀ i, Safe env c i (post i) (s.threads i) s.world

section Rules

variable {env : Env ι Op Reply β χ ε ω} {c : Contract ι Op ω} {i : ι} {p : Prog Op Reply α}
  {post : α → ω → Prop} {w : ω}

theorem Safe.relied (trans : ∀ u v w, c.rely i u v → c.rely i v w → c.rely i u w) {w' : ω}
    (h : Safe env c i post p w) (hr : c.rely i w w') : Safe env c i post p w' := by
  cases p with
  | ret a => exact fun v hv hr' => h v hv (trans _ _ _ hr hr')
  | panic => exact h
  | goexit => exact h
  | call op next => exact fun v hv hr' => h v hv (trans _ _ _ hr hr')

theorem safe_pure {a : α} (h : post a w)
    (stable : ∀ w w', c.inv w' → post a w → c.rely i w w' → post a w') :
    Safe env c i post (pure a) w :=
  fun w' hw' hr => stable w w' hw' h hr

/-- The rule of an operation: its pre-condition `P` is stable, and from `P` every
reply leads to a state in which the rest is safe. -/
theorem safe_perform_bind {γ : Type} (P : ω → Prop) {post : γ → ω → Prop} {op : Op}
    {f : Reply op → Prog Op Reply γ} (h : P w)
    (stable : ∀ w w', c.inv w' → P w → c.rely i w w' → P w')
    (pre : ∀ w, c.inv w → P w → c.pre i op w)
    (next : ∀ w x r w', c.inv w → P w → env.answer i op x w = some (r, w') →
      c.Allows i w w' ∧ Safe env c i post (f r) w') : Safe env c i post (perform op >>= f) w := by
  intro w' hw' hr
  have held := stable w w' hw' h hr
  exact ⟨pre w' hw' held, fun x r w'' answered => next w' x r w'' hw' held answered⟩

theorem safe_perform_bind_inv {γ : Type} {post : γ → ω → Prop} {op : Op}
    {f : Reply op → Prog Op Reply γ} (pre : ∀ w, c.inv w → c.pre i op w)
    (next : ∀ w x r w', c.inv w → env.answer i op x w = some (r, w') →
      c.Allows i w w' ∧ Safe env c i post (f r) w') : Safe env c i post (perform op >>= f) w :=
  safe_perform_bind (fun _ => True) trivial (fun _ _ _ _ _ => trivial) (fun w hw _ => pre w hw)
    fun w x r w' hw _ answered => next w x r w' hw answered

theorem safe_bind {γ : Type} {Q : α → ω → Prop} {post : γ → ω → Prop} (refl : ∀ w, c.rely i w w)
    {f : α → Prog Op Reply γ} (hw : c.inv w) (h : Safe env c i Q p w)
    (rest : ∀ a w, c.inv w → Q a w → Safe env c i post (f a) w) :
    Safe env c i post (p >>= f) w := by
  induction p generalizing w with
  | ret a => exact rest a w hw (h w hw (refl w))
  | panic => exact h
  | goexit => exact h
  | call op next ih =>
    intro w' hw' hr
    obtain ⟨pre, replies⟩ := h w' hw' hr
    refine ⟨pre, fun x r w'' answered => ?_⟩
    obtain ⟨allowed, safe⟩ := replies x r w'' answered
    exact ⟨allowed, ih r allowed.1 safe⟩

theorem Safe.weaken {post' : α → ω → Prop} (h : Safe env c i post p w)
    (implies : ∀ a w, post a w → post' a w) : Safe env c i post' p w := by
  induction p generalizing w with
  | ret a => exact fun w' hw' hr => implies a w' (h w' hw' hr)
  | panic => exact h
  | goexit => exact h
  | call op next ih =>
    intro w' hw' hr
    obtain ⟨pre, replies⟩ := h w' hw' hr
    refine ⟨pre, fun x r w'' answered => ?_⟩
    obtain ⟨allowed, safe⟩ := replies x r w'' answered
    exact ⟨allowed, ih r safe⟩

/-- The frame rule: what neither the others nor the thread itself can change holds at the
end as well. -/
theorem Safe.frame {F : ω → Prop} (stable : ∀ w w', c.inv w' → F w → c.rely i w w' → F w')
    (own : ∀ w w', F w → c.Allows i w w' → F w') (h : Safe env c i post p w) (held : F w) :
    Safe env c i (fun a w => post a w ∧ F w) p w := by
  induction p generalizing w with
  | ret a => exact fun w' hw' hr => ⟨h w' hw' hr, stable w w' hw' held hr⟩
  | panic => exact h
  | goexit => exact h
  | call op next ih =>
    intro w' hw' hr
    obtain ⟨pre, replies⟩ := h w' hw' hr
    refine ⟨pre, fun x r w'' answered => ?_⟩
    obtain ⟨allowed, safe⟩ := replies x r w'' answered
    exact ⟨allowed, ih r safe (own w' w'' (stable w w' hw' held hr) allowed)⟩

end Rules

variable {env : Env ι Op Reply α χ ε ω} {c : Contract ι Op ω} {post : ι → α → ω → Prop}

theorem AllSafe.ended {s : System ι Op Reply α ω} (coherent : Coherent env c post)
    (h : AllSafe env c post s) {i : ι} {a : α} (same : s.threads i = .ret a) :
    post i a s.world := by
  have safe := h.2 i
  rw [same] at safe
  exact safe s.world h.1 (coherent.refl i _)

theorem AllSafe.reached {s : System ι Op Reply α ω} (coherent : Coherent env c post)
    (h : AllSafe env c post s) {i : ι} {op : Op} {next : Reply op → Prog Op Reply α}
    (same : s.threads i = .call op next) : c.pre i op s.world := by
  have safe := h.2 i
  rw [same] at safe
  exact (safe s.world h.1 (coherent.refl i _)).1

variable [DecidableEq ι]

theorem AllSafe.update {s : System ι Op Reply α ω} (coherent : Coherent env c post)
    (h : AllSafe env c post s) {i : ι} {p : Prog Op Reply α} {w : ω}
    (allowed : c.Allows i s.world w) (safe : Safe env c i (post i) p w) :
    AllSafe env c post ⟨Function.update s.threads i p, w⟩ := by
  refine ⟨allowed.1, fun j => ?_⟩
  by_cases same : j = i
  · subst same
    simpa using safe
  · simpa [same] using (h.2 j).relied (coherent.trans j) (allowed.2 j same)

theorem AllSafe.step {s t : System ι Op Reply α ω} {a : Input ι χ ε}
    (coherent : Coherent env c post) (h : AllSafe env c post s) (hstep : env.step s a = some t) :
    AllSafe env c post t := by
  cases step_transition hstep with
  | @answered i x op next r w same answered =>
    have safe := h.2 i
    rw [same] at safe
    obtain ⟨allowed, rest⟩ := (safe s.world h.1 (coherent.refl i _)).2 x r w answered
    exact h.update coherent allowed rest
  | @resumed i x b p same again =>
    have safe := h.2 i
    rw [same] at safe
    have ended := safe s.world h.1 (coherent.refl i _)
    exact h.update coherent ⟨h.1, fun j _ => coherent.refl j _⟩
      (coherent.again i b p _ h.1 ended again)
  | @acted e w acted =>
    obtain ⟨inv, relied⟩ := coherent.act e _ w h.1 acted
    exact ⟨inv, fun i => (h.2 i).relied (coherent.trans i) (relied i)⟩

/-- Threads that are safe one by one are safe in every state of every interleaving. -/
theorem always_allSafe (coherent : Coherent env c post) {s : System ι Op Reply α ω}
    (h : AllSafe env c post s) (as : List (Input ι χ ε)) :
    Always env.step (AllSafe env c post) s as :=
  always_of_invariant (fun _ _ _ hstep safe => safe.step coherent hstep) h as

end DxCommonGo.RelyGuarantee
