import DxCommonGo.Programs
import Mathlib.Logic.Function.Basic

/-! Programs that run side by side on one environment: in a step one of them performs its next
operation. -/

namespace DxCommonGo.Threads
open Programs

structure System (ι Op : Type) (Reply : Op → Type) (α ω : Type) where
  threads : ι → Prog Op Reply α
  world : ω

variable {ι Op : Type} {Reply : Op → Type} {α ω : Type} [DecidableEq ι]

def step (h : Handler Op Reply ω) (s : System ι Op Reply α ω) (i : ι) :
    Option (System ι Op Reply α ω) :=
  match s.threads i with
  | .call op next =>
    some ⟨Function.update s.threads i (next (h op s.world).1), (h op s.world).2⟩
  | _ => none

theorem step_of_call {h : Handler Op Reply ω} {s : System ι Op Reply α ω} {i : ι} {op : Op}
    {next : Reply op → Prog Op Reply α} (same : s.threads i = .call op next) :
    step h s i =
      some ⟨Function.update s.threads i (next (h op s.world).1), (h op s.world).2⟩ := by
  rw [step, same]

theorem step_eq_some {h : Handler Op Reply ω} {s t : System ι Op Reply α ω} {i : ι}
    (hstep : step h s i = some t) :
    ∃ op next, s.threads i = .call op next ∧
      t = ⟨Function.update s.threads i (next (h op s.world).1), (h op s.world).2⟩ := by
  unfold step at hstep
  split at hstep
  · rename_i op next same
    exact ⟨op, next, same, (Option.some.inj hstep).symm⟩
  · cases hstep

end DxCommonGo.Threads
