import Mathlib.Data.Finset.Card
import Mathlib.Data.List.DropRight
import Mathlib.Data.List.Nodup

/-! Bounded sets that forget their oldest member. A new member pushes the oldest out once the set is
full; one that is there already keeps its place. -/

namespace DxCommonGo.RecentSet

variable {α : Type}

def evict (cap : Nat) (order : List α) : List α :=
  if cap ≤ order.length then order.tail else order

theorem evict_sublist (cap : Nat) (order : List α) : (evict cap order).Sublist order := by
  unfold evict
  split_ifs
  · exact List.tail_sublist order
  · exact List.Sublist.refl order

theorem evict_rtake (n : Nat) (log : List α) :
    evict (n + 1) (log.rtake (n + 1)) = log.rtake n := by
  unfold evict List.rtake
  rw [List.length_drop]
  split_ifs with full
  · rw [List.tail_drop]
    congr 1
    omega
  · congr 1
    omega

theorem length_rtake_le (log : List α) (n : Nat) : (log.rtake n).length ≤ n := by
  rw [List.rtake, List.length_drop]
  omega

theorem mem_rtake_iff {x : α} {older newer : List α} (last : x ∉ newer) (n : Nat) :
    x ∈ (older ++ x :: newer).rtake n ↔ newer.length < n := by
  rw [List.rtake, List.length_append, List.length_cons]
  by_cases few : newer.length < n
  · rw [List.drop_append_of_le_length (by omega)]
    simp [few]
  · rw [List.drop_append, List.drop_of_length_le (by omega), List.nil_append,
      show older.length + (newer.length + 1) - n - older.length = newer.length - n + 1 by omega,
      List.drop_succ_cons]
    exact iff_of_false (fun mem => last (List.mem_of_mem_drop mem)) few

/-- `x` is in the list, and those that came after it are among the given ones. -/
def Since (x : α) (since : List α) (order : List α) : Prop :=
  ∃ older newer, order = older ++ x :: newer ∧ ∀ y ∈ newer, y ∈ since

theorem Since.mem {x : α} {since order : List α} (h : Since x since order) : x ∈ order := by
  obtain ⟨older, newer, rfl, -⟩ := h
  simp

variable [DecidableEq α]

def push (cap : Nat) (order : List α) (x : α) : List α :=
  if x ∈ order then order else evict cap order ++ [x]

variable {cap : Nat}

theorem push_of_not_mem {order : List α} {x : α} (h : x ∉ order) :
    push cap order x = evict cap order ++ [x] := if_neg h

/-- The members are the last ones of the log of all that were new when they came. -/
theorem push_rtake (pos : 0 < cap) {log : List α} {x : α} (h : x ∉ log.rtake cap) :
    push cap (log.rtake cap) x = (log ++ [x]).rtake cap := by
  obtain ⟨n, rfl⟩ := Nat.exists_eq_succ_of_ne_zero pos.ne'
  rw [push_of_not_mem h, evict_rtake, List.rtake_concat_succ]

theorem Since.push {x y : α} {since order : List α} (nodup : order.Nodup)
    (few : ((y :: since).toFinset.erase x).card < cap) (h : Since x since order) :
    Since x (y :: since) (push cap order y) := by
  obtain ⟨older, newer, rfl, hnewer⟩ := h
  have wider : ∀ z ∈ newer, z ∈ y :: since := fun z hz => List.mem_cons_of_mem y (hnewer z hz)
  by_cases present : y ∈ older ++ x :: newer
  · exact ⟨older, newer, if_pos present, wider⟩
  rw [push_of_not_mem present]
  have extended : ∀ z ∈ newer ++ [y], z ∈ y :: since := by
    intro z hz
    rcases List.mem_append.mp hz with hz | hz
    · exact wider z hz
    · rw [List.mem_singleton.mp hz]
      exact List.mem_cons_self
  unfold evict
  split_ifs with full
  · cases older with
    | cons oldest older => exact ⟨older, newer ++ [y], by simp, extended⟩
    | nil =>
      -- The oldest is `x` itself: everything else in the full list came after it.
      exfalso
      rw [List.nil_append] at nodup present full
      have notMem : x ∉ newer := (List.nodup_cons.mp nodup).1
      have others : (newer ++ [y]).Nodup := by
        apply (List.nodup_cons.mp nodup).2.append (List.nodup_singleton y)
        exact List.disjoint_singleton.mpr fun hy => present (List.mem_cons_of_mem x hy)
      have among : (newer ++ [y]).toFinset ⊆ (y :: since).toFinset.erase x := by
        intro z hz
        rw [List.mem_toFinset] at hz
        rw [Finset.mem_erase, List.mem_toFinset]
        refine ⟨?_, extended z hz⟩
        rintro rfl
        rcases List.mem_append.mp hz with hz | hz
        · exact notMem hz
        · rw [List.mem_singleton.mp hz] at present
          exact present List.mem_cons_self
      have count := Finset.card_le_card among
      rw [List.toFinset_card_of_nodup others, List.length_append, List.length_singleton] at count
      rw [List.length_cons] at full
      omega
  · exact ⟨older, newer ++ [y], by simp, extended⟩

theorem since_push {x : α} {order : List α} (h : x ∉ order) :
    Since x [] (RecentSet.push cap order x) := by
  rw [push_of_not_mem h]
  exact ⟨evict cap order, [], rfl, fun y hy => hy⟩

end DxCommonGo.RecentSet
