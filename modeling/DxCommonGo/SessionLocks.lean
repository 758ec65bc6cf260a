import Mathlib.Logic.Function.Basic
import Mathlib.Data.Option.Basic
import Mathlib.Tactic.SplitIfs

/-! Locks of sessions, as the advisory locks of a database: a session can take a lock several times
and has to give it back as often, or ends. -/

namespace DxCommonGo.SessionLocks

variable {S K : Type} [DecidableEq S] [DecidableEq K]

abbrev Locks (S K : Type) := K → Option (S × Nat)

def tryLock (s : S) (k : K) (locks : Locks S K) : Bool × Locks S K :=
  match locks k with
  | none => (true, Function.update locks k (some (s, 0)))
  | some (s', n) =>
    if s' = s then (true, Function.update locks k (some (s, n + 1))) else (false, locks)

def unlock (s : S) (k : K) (locks : Locks S K) : Locks S K :=
  match locks k with
  | none => locks
  | some (s', n) =>
    if s' = s then Function.update locks k (if n = 0 then none else some (s, n - 1)) else locks

omit [DecidableEq K] in
def close (s : S) (locks : Locks S K) : Locks S K := fun k =>
  (locks k).filter fun owner => owner.1 ≠ s

def Owns (locks : Locks S K) (s : S) (k : K) : Prop := ∃ n, locks k = some (s, n)

variable {locks : Locks S K}

omit [DecidableEq S] [DecidableEq K] in
theorem Owns.unique {s t : S} {k : K} (hs : Owns locks s k) (ht : Owns locks t k) : s = t := by
  obtain ⟨n, hs⟩ := hs
  obtain ⟨m, ht⟩ := ht
  rw [hs] at ht
  cases ht
  rfl

theorem owns_tryLock {s : S} {k : K} (granted : (tryLock s k locks).1 = true) :
    Owns (tryLock s k locks).2 s k := by
  unfold tryLock at granted ⊢
  split
  · exact ⟨0, by simp⟩
  · next t n owned =>
    rw [owned] at granted
    dsimp only at granted
    split_ifs at granted ⊢ with same
    exact ⟨n + 1, by simp⟩

omit [DecidableEq S] in
theorem Owns.update {t : S} {k l : K} (h : Owns locks t l) (free : ∀ n, locks k ≠ some (t, n))
    (owner : Option (S × Nat)) : Owns (Function.update locks k owner) t l := by
  obtain ⟨n, owned⟩ := h
  have apart : l ≠ k := by
    rintro rfl
    exact free n owned
  exact ⟨n, by simpa [apart] using owned⟩

theorem Owns.tryLock {s t : S} (other : s ≠ t) {k l : K} (h : Owns locks t l) :
    Owns (tryLock s k locks).2 t l := by
  unfold SessionLocks.tryLock
  split
  · next free => exact h.update (by simp [free]) _
  · next s' m taken =>
    split_ifs with same
    · exact h.update (by simp [taken, same, other]) _
    · exact h

theorem Owns.unlock {s t : S} (other : s ≠ t) {k l : K} (h : Owns locks t l) :
    Owns (unlock s k locks) t l := by
  unfold SessionLocks.unlock
  split
  · exact h
  · next s' m taken =>
    by_cases same : s' = s
    · rw [if_pos same]
      exact h.update (by simp [taken, same, other]) _
    · rw [if_neg same]
      exact h

omit [DecidableEq K] in
theorem Owns.close {s t : S} (other : s ≠ t) {l : K} (h : Owns locks t l) :
    Owns (close s locks) t l := by
  obtain ⟨n, owned⟩ := h
  exact ⟨n, by simp [SessionLocks.close, owned, other.symm]⟩

end DxCommonGo.SessionLocks
