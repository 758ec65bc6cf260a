import Mathlib.Data.List.Nodup
import Mathlib.Data.List.Perm.Subperm

/-! Search for chains from a start, along a link relation, through a pool to one of the goals, with
no element twice. -/

namespace DxCommonGo.ChainSearch

variable {α : Type} (link : α → α → Bool) (goals pool : List α)

inductive Connects : List α → α → List α → Prop where
  | last {visited : List α} {a g : α} : g ∈ goals → link a g = true → g ∉ visited →
      Connects visited a [a, g]
  | step {visited : List α} {a m : α} {chain : List α} : m ∈ pool → link a m = true →
      m ∉ visited → Connects (m :: visited) m chain → Connects visited a (a :: chain)

/-- The chains from `a` with at most `n` elements between it and the goal. -/
def chainsFrom [DecidableEq α] : Nat → List α → α → List (List α)
  | 0, visited, a =>
    (goals.filter fun g => link a g && decide (g ∉ visited)).map fun g => [a, g]
  | n + 1, visited, a =>
    ((goals.filter fun g => link a g && decide (g ∉ visited)).map fun g => [a, g]) ++
      (pool.filter fun m => link a m && decide (m ∉ visited)).flatMap fun m =>
        (chainsFrom n (m :: visited) m).map (a :: ·)

def chains [DecidableEq α] (a : α) : List (List α) := chainsFrom link goals pool pool.length [a] a

variable {link goals pool} {chain visited : List α}

theorem connects_of_mem_chainsFrom [DecidableEq α] {n : Nat} {a : α}
    (h : chain ∈ chainsFrom link goals pool n visited a) :
    Connects link goals pool visited a chain := by
  have finishing : ∀ {visited : List α} {a : α} {chain : List α},
      chain ∈ (goals.filter fun g => link a g && decide (g ∉ visited)).map (fun g => [a, g]) →
      Connects link goals pool visited a chain := by
    intro visited a chain h
    obtain ⟨g, hg, rfl⟩ := List.mem_map.mp h
    simp only [List.mem_filter, Bool.and_eq_true, decide_eq_true_eq] at hg
    exact .last hg.1 hg.2.1 hg.2.2
  induction n generalizing visited a chain with
  | zero => exact finishing h
  | succ n ih =>
    rcases List.mem_append.mp h with h | h
    · exact finishing h
    · obtain ⟨m, hm, h⟩ := List.mem_flatMap.mp h
      obtain ⟨rest, hrest, rfl⟩ := List.mem_map.mp h
      simp only [List.mem_filter, Bool.and_eq_true, decide_eq_true_eq] at hm
      exact .step hm.1 hm.2.1 hm.2.2 (ih hrest)

theorem mem_chainsFrom_of_connects [DecidableEq α] {n : Nat} {a : α}
    (h : Connects link goals pool visited a chain) (short : chain.length ≤ n + 2) :
    chain ∈ chainsFrom link goals pool n visited a := by
  induction h generalizing n with
  | @last visited a g hg linked fresh =>
    have found : [a, g] ∈ (goals.filter fun g => link a g && decide (g ∉ visited)).map
        fun g => [a, g] := by
      refine List.mem_map_of_mem (List.mem_filter.mpr ⟨hg, ?_⟩)
      simp [linked, fresh]
    cases n with
    | zero => exact found
    | succ n => exact List.mem_append_left _ found
  | @step visited a m chain hm linked fresh rest ih =>
    cases n with
    | zero =>
      cases rest with
      | last => simp at short
      | step _ _ _ rest => cases rest <;> simp at short
    | succ n =>
      refine List.mem_append_right _ (List.mem_flatMap.mpr ⟨m, ?_, ?_⟩)
      · simp [hm, linked, fresh]
      · refine List.mem_map_of_mem (ih ?_)
        simpa using short

theorem Connects.middle {a : α} (h : Connects link goals pool visited a chain) :
    ∃ mids g, chain = a :: (mids ++ [g]) ∧ g ∈ goals ∧ mids ⊆ pool ∧ mids.Nodup ∧
      ∀ m ∈ mids, m ∉ visited := by
  induction h with
  | @last visited a g hg linked fresh => exact ⟨[], g, rfl, hg, by simp⟩
  | @step visited a m chain hm linked fresh rest ih =>
    obtain ⟨mids, g, rfl, hg, inPool, distinct, unvisited⟩ := ih
    refine ⟨m :: mids, g, rfl, hg, List.cons_subset.mpr ⟨hm, inPool⟩, ?_, ?_⟩
    · exact List.nodup_cons.mpr ⟨fun again => unvisited m again List.mem_cons_self, distinct⟩
    · refine List.forall_mem_cons.mpr ⟨fresh, fun x hx again => ?_⟩
      exact unvisited x hx (List.mem_cons_of_mem m again)

theorem mem_chains [DecidableEq α] {a : α} :
    chain ∈ chains link goals pool a ↔ Connects link goals pool [a] a chain := by
  refine ⟨connects_of_mem_chainsFrom, fun h => mem_chainsFrom_of_connects h ?_⟩
  obtain ⟨mids, g, rfl, -, inPool, distinct, -⟩ := h.middle
  have short : mids.length ≤ pool.length := (List.subperm_of_subset distinct inPool).length_le
  simpa using short

end DxCommonGo.ChainSearch
