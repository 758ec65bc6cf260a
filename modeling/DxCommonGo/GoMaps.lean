import DxCommonGo.GoStrings
import Mathlib.Data.List.AList
import Mathlib.Data.List.Induction
import Mathlib.Data.List.Perm.Basic

/-! Go maps keyed by strings, as association lists without duplicate keys. `RangeOrder` is the order
of a `range` over a map, one permutation per loop site, which Go leaves open. -/

namespace DxCommonGo.GoMaps
open GoStrings

abbrev GoMap (β : Type) := AList fun _ : GoString => β

structure RangeOrder where
  visit : Nat → (α : Type) → List α → List α
  perm : ∀ site α (l : List α), (visit site α l).Perm l

def RangeOrder.listed : RangeOrder := ⟨fun _ _ l => l, fun _ _ _ => .refl _⟩

def RangeOrder.backwards : RangeOrder := ⟨fun _ _ l => l.reverse, fun _ _ l => l.reverse_perm⟩

def RangeOrder.lastAt (i : Nat) : RangeOrder where
  visit _ _ l := l.eraseIdx i ++ l[i]?.toList
  perm _ _ l := by
    by_cases h : i < l.length
    · rw [List.getElem?_eq_getElem h]
      exact List.perm_append_comm.trans (List.getElem_cons_eraseIdx_perm h)
    · have past : l.length ≤ i := by omega
      rw [List.eraseIdx_of_length_le past, List.getElem?_eq_none past, Option.toList_none,
        List.append_nil]

def RangeOrder.andThen (o u : RangeOrder) : RangeOrder where
  visit site α l := u.visit site α (o.visit site α l)
  perm site α l := (u.perm site α _).trans (o.perm site α l)

variable {β γ : Type}

def pairs (m : GoMap β) : List (GoString × β) := m.entries.map fun e => (e.1, e.2)

def range (ord : RangeOrder) (site : Nat) (m : GoMap β) : List (GoString × β) :=
  ord.visit site _ (pairs m)

def ofPairs (ps : List (GoString × β)) : GoMap β := (ps.map fun p => ⟨p.1, p.2⟩).toAList

variable (ord : RangeOrder)

theorem range_perm (site : Nat) (m : GoMap β) :
    (range ord site m).Perm (pairs m) := ord.perm site _ _

variable {k : GoString} {m : GoMap β} {v : β} {ps : List (GoString × β)}

theorem mem_pairs : (k, v) ∈ pairs m ↔ m.lookup k = some v := by
  rw [← Option.mem_def, AList.mem_lookup_iff]
  simp only [pairs, List.mem_map, Prod.mk.injEq]
  constructor
  · rintro ⟨e, he, rfl, rfl⟩
    exact he
  · intro h
    exact ⟨⟨k, v⟩, h, rfl, rfl⟩

theorem mem_range {ord : RangeOrder} {site : Nat} :
    (k, v) ∈ range ord site m ↔ m.lookup k = some v :=
  (range_perm ord site m).mem_iff.trans mem_pairs

theorem pairs_keys (m : GoMap β) : (pairs m).map Prod.fst = m.keys := by
  simp only [pairs, List.map_map, AList.keys, List.keys]
  rfl

theorem range_keys_nodup (site : Nat) (m : GoMap β) : ((range ord site m).map Prod.fst).Nodup := by
  refine ((range_perm ord site m).map Prod.fst).nodup_iff.mpr ?_
  rw [pairs_keys]
  exact m.keys_nodup

theorem mem_range_keys {ord : RangeOrder} {site : Nat} :
    k ∈ (range ord site m).map Prod.fst ↔ k ∈ m := by
  rw [((range_perm ord site m).map Prod.fst).mem_iff, pairs_keys, AList.mem_keys]

theorem lookup_range (site : Nat) (m : GoMap β) (k : GoString) :
    (range ord site m).lookup k = m.lookup k := by
  cases found : (range ord site m).lookup k with
  | some v =>
    obtain ⟨before, after, split, -⟩ := List.lookup_eq_some_iff.mp found
    have visited : (k, v) ∈ range ord site m := by
      rw [split]
      exact List.mem_append_right _ List.mem_cons_self
    exact (mem_range.mp visited).symm
  | none =>
    have absent : k ∉ m := by
      intro member
      have visited : k ∈ (range ord site m).map Prod.fst := mem_range_keys.mpr member
      obtain ⟨e, he, rfl⟩ := List.mem_map.mp visited
      simpa using List.lookup_eq_none_iff.mp found e he
    exact (AList.lookup_eq_none.mpr absent).symm

theorem pairs_nodup (m : GoMap β) : (pairs m).Nodup := by
  refine List.Nodup.of_map Prod.fst ?_
  rw [pairs_keys]
  exact m.keys_nodup

theorem range_perm_of_lookup {m' : GoMap β} (h : ∀ k, m.lookup k = m'.lookup k)
    (ord ord' : RangeOrder) (site : Nat) : (range ord site m).Perm (range ord' site m') := by
  have same : (pairs m).Perm (pairs m') := by
    refine (List.perm_ext_iff_of_nodup (pairs_nodup m) (pairs_nodup m')).mpr fun e => ?_
    rw [mem_pairs, mem_pairs, h e.1]
  exact (range_perm ord site m).trans (same.trans (range_perm ord' site m').symm)

theorem exists_last {e : GoString × β} (he : e ∈ pairs m) :
    ∃ ord : RangeOrder, ∀ site, ∃ rest, range ord site m = rest ++ [e] := by
  obtain ⟨i, hi⟩ := List.mem_iff_getElem?.mp he
  refine ⟨.lastAt i, fun site => ⟨(pairs m).eraseIdx i, ?_⟩⟩
  simp [range, RangeOrder.lastAt, hi]

theorem exists_lastTwo {e f : GoString × β} (he : e ∈ pairs m) (hf : f ∈ pairs m) (ne : f ≠ e) :
    ∃ ord : RangeOrder, ∀ site, ∃ rest, range ord site m = rest ++ [f, e] := by
  obtain ⟨i, hi⟩ := List.mem_iff_getElem?.mp hf
  have kept : e ∈ (pairs m).eraseIdx i := by
    obtain ⟨j, hj⟩ := List.mem_iff_getElem?.mp he
    refine List.mem_eraseIdx_iff_getElem?.mpr ⟨j, ?_, hj⟩
    rintro rfl
    exact ne (Option.some.inj (hi.symm.trans hj))
  obtain ⟨j, hj⟩ := List.mem_iff_getElem?.mp kept
  obtain ⟨inside, -⟩ := List.getElem?_eq_some_iff.mp hj
  refine ⟨(RangeOrder.lastAt i).andThen (.lastAt j), fun site =>
    ⟨((pairs m).eraseIdx i).eraseIdx j, ?_⟩⟩
  simp only [range, RangeOrder.andThen, RangeOrder.lastAt, hi, Option.toList_some]
  rw [List.eraseIdx_append_of_lt_length inside, List.getElem?_append_left inside, hj]
  simp

def insertAll (m : GoMap β) (ps : List (GoString × β)) : GoMap β :=
  ps.foldl (fun acc p => acc.insert p.1 p.2) m

theorem lookup_insertAll_of_not_mem (m : GoMap β) (h : k ∉ ps.map Prod.fst) :
    (insertAll m ps).lookup k = m.lookup k := by
  induction ps generalizing m with
  | nil => rfl
  | cons p ps ih =>
    simp only [List.map_cons, List.mem_cons, not_or] at h
    rw [show insertAll m (p :: ps) = insertAll (m.insert p.1 p.2) ps from rfl, ih _ h.2,
      AList.lookup_insert_ne h.1]

theorem lookup_insertAll_of_agree (m : GoMap β) (h : (k, v) ∈ ps)
    (agree : ∀ w, (k, w) ∈ ps → w = v) : (insertAll m ps).lookup k = some v := by
  induction ps generalizing m with
  | nil => cases h
  | cons p ps ih =>
    rw [show insertAll m (p :: ps) = insertAll (m.insert p.1 p.2) ps from rfl]
    by_cases later : (k, v) ∈ ps
    · exact ih _ later fun w hw => agree w (List.mem_cons_of_mem p hw)
    · have last : k ∉ ps.map Prod.fst := by
        intro hk
        obtain ⟨⟨k', w⟩, hw, rfl⟩ := List.mem_map.mp hk
        exact later (agree w (List.mem_cons_of_mem p hw) ▸ hw)
      rcases List.mem_cons.mp h with rfl | h
      · rw [lookup_insertAll_of_not_mem _ last, AList.lookup_insert]
      · exact absurd h later

theorem lookup_insertAll_of_nodup (m : GoMap β) (hk : (ps.map Prod.fst).Nodup) (h : (k, v) ∈ ps) :
    (insertAll m ps).lookup k = some v := by
  refine lookup_insertAll_of_agree m h fun w hw => ?_
  have same : (k, w) = (k, v) := List.inj_on_of_nodup_map hk hw h rfl
  exact (Prod.mk.inj same).2

theorem mem_of_lookup_insertAll (h : (insertAll m ps).lookup k = some v) :
    m.lookup k = some v ∨ (k, v) ∈ ps := by
  induction ps generalizing m with
  | nil => exact .inl h
  | cons p ps ih =>
    rcases ih (m := m.insert p.1 p.2) h with kept | later
    · by_cases same : k = p.1
      · rw [same, AList.lookup_insert, Option.some.injEq] at kept
        exact .inr (List.mem_cons.mpr (.inl (Prod.ext same kept.symm)))
      · rw [AList.lookup_insert_ne same] at kept
        exact .inl kept
    · exact .inr (List.mem_cons_of_mem p later)

theorem insertAll_concat (m : GoMap β) (ps : List (GoString × β)) (p : GoString × β) :
    insertAll m (ps ++ [p]) = (insertAll m ps).insert p.1 p.2 := List.foldl_append

theorem lookup_insertAll (m : GoMap β) (ps : List (GoString × β)) (k : GoString) :
    (insertAll m ps).lookup k =
      ((ps.filter (·.1 = k)).getLast?.map Prod.snd).or (m.lookup k) := by
  induction ps using List.reverseRecOn with
  | nil => rfl
  | append_singleton ps p ih =>
    rw [insertAll_concat, List.filter_append]
    by_cases same : p.1 = k
    · subst same
      rw [AList.lookup_insert, List.filter_singleton]
      simp
    · rw [AList.lookup_insert_ne (Ne.symm same), ih, List.filter_singleton]
      simp [same]

theorem lookup_insertAll_last {α : Type} {f : α → Option (GoString × β)} {e : α}
    {x : GoString × β} (h : f e = some x) (m : GoMap β) (l : List α) :
    (insertAll m ((l ++ [e]).filterMap f)).lookup x.1 = some x.2 := by
  rw [List.filterMap_append, List.filterMap_cons_some h, List.filterMap_nil, insertAll_concat,
    AList.lookup_insert]

theorem lookup_insertAll_congr {α : Type} {f g : α → Option (GoString × β)} {l : List α}
    (h : ∀ e ∈ l, f e = g e ∨ ∀ v, f e ≠ some (k, v) ∧ g e ≠ some (k, v)) {m' : GoMap β}
    (same : m.lookup k = m'.lookup k) :
    (insertAll m (l.filterMap f)).lookup k = (insertAll m' (l.filterMap g)).lookup k := by
  induction l generalizing m m' with
  | nil => exact same
  | cons e l ih =>
    have write : ∀ (u : α → Option (GoString × β)) (n : GoMap β),
        insertAll n ((e :: l).filterMap u) =
          insertAll ((u e).elim n fun x => n.insert x.1 x.2) (l.filterMap u) := by
      intro u n
      cases written : u e with
      | none => rw [List.filterMap_cons_none written, Option.elim_none]
      | some x =>
        rw [List.filterMap_cons_some written]
        rfl
    have kept : ∀ (w : Option (GoString × β)) (n : GoMap β), (∀ v, w ≠ some (k, v)) →
        (w.elim n fun x => n.insert x.1 x.2).lookup k = n.lookup k := by
      intro w n other
      cases w with
      | none => rfl
      | some x =>
        refine AList.lookup_insert_ne ?_
        rintro rfl
        exact other x.2 rfl
    rw [write, write]
    refine ih (fun e' he' => h e' (List.mem_cons_of_mem e he')) ?_
    rcases h e List.mem_cons_self with agree | other
    · rw [agree]
      cases g e with
      | none => exact same
      | some x =>
        by_cases here : k = x.1
        · rw [Option.elim_some, Option.elim_some, here, AList.lookup_insert, AList.lookup_insert]
        · rw [Option.elim_some, Option.elim_some, AList.lookup_insert_ne here,
            AList.lookup_insert_ne here, same]
    · rw [kept _ _ fun v => (other v).1, kept _ _ fun v => (other v).2, same]

theorem mem_insertAll (h : k ∈ insertAll m ps) : k ∈ m ∨ k ∈ ps.map Prod.fst := by
  by_cases hk : k ∈ ps.map Prod.fst
  · exact .inr hk
  · left
    rw [← AList.lookup_isSome] at h ⊢
    rwa [lookup_insertAll_of_not_mem m hk] at h

end DxCommonGo.GoMaps
