import DxCommonGo.Outbox

/-! The outbox table and the store's statements. FetchUnsent claims unsent rows that are not locked,
oldest first, and returns them in any order; MarkSent stamps one row. -/

namespace DxCommonGo.OutboxTable
open Outbox

structure Stored where
  row : Row
  sentAt : Option Int
  deriving DecidableEq

def idsOf (table : List Stored) : List Nat := table.map fun s => s.row.id

def unsent (locked : List Nat) (table : List Stored) : List Stored :=
  table.filter fun s => s.sentAt.isNone && !locked.contains s.row.id

def bump (ids : List Nat) (table : List Stored) : List Stored :=
  table.map fun s =>
    if ids.contains s.row.id then { s with row := { s.row with attempts := s.row.attempts + 1 } }
    else s

def stamp (id : Nat) (now : Int) (table : List Stored) : List Stored :=
  table.map fun s => if s.row.id = id then { s with sentAt := some now } else s

def rowsOf (ids : List Nat) (table : List Stored) : List Row :=
  ids.filterMap fun id => (table.find? fun s => s.row.id = id).map Stored.row

/-- The claim: at most `limit` unsent and unlocked rows, all if there are no more,
and none of them younger than one that is left. -/
def Claims (limit : Int) (locked ids : List Nat) (table : List Stored) : Prop :=
  0 ≤ limit ∧ ids.Nodup ∧ (∀ id ∈ ids, (idsOf (unsent locked table)).contains id = true) ∧
    (ids.length : Int) = min limit (unsent locked table).length ∧
    ∀ s ∈ unsent locked table, ids.contains s.row.id = false →
      ∀ t ∈ unsent locked table, ids.contains t.row.id = true → t.row.createdAt ≤ s.row.createdAt

instance (limit : Int) (locked ids : List Nat) (table : List Stored) :
    Decidable (Claims limit locked ids table) := inferInstanceAs (Decidable (_ ∧ _ ∧ _ ∧ _ ∧ _))

def untried (r : Row) : Row := { r with attempts := 0 }

@[simp] theorem untried_id (r : Row) : (untried r).id = r.id := rfl

@[simp] theorem untried_createdAt (r : Row) : (untried r).createdAt = r.createdAt := rfl

def contents (table : List Stored) : List Row := table.map fun s => untried s.row

theorem idsOf_eq (table : List Stored) : idsOf table = (contents table).map Row.id := by
  simp [idsOf, contents, untried]

theorem contents_bump (ids : List Nat) (table : List Stored) :
    contents (bump ids table) = contents table := by
  simp only [contents, bump, List.map_map]
  apply List.map_congr_left
  intro s _
  simp only [Function.comp_apply]
  split_ifs <;> rfl

theorem contents_stamp (id : Nat) (now : Int) (table : List Stored) :
    contents (stamp id now table) = contents table := by
  simp only [contents, stamp, List.map_map]
  apply List.map_congr_left
  intro s _
  simp only [Function.comp_apply]
  split_ifs <;> rfl

@[simp] theorem idsOf_bump (ids : List Nat) (table : List Stored) :
    idsOf (bump ids table) = idsOf table := by
  rw [idsOf_eq, contents_bump, ← idsOf_eq]

@[simp] theorem idsOf_stamp (id : Nat) (now : Int) (table : List Stored) :
    idsOf (stamp id now table) = idsOf table := by
  rw [idsOf_eq, contents_stamp, ← idsOf_eq]

variable {table : List Stored} {r : Row} {ids locked : List Nat} {id : Nat} {limit : Int}

theorem mem_contents {s : Stored} (h : s ∈ table) :
    untried s.row ∈ contents table := List.mem_map.mpr ⟨s, h, rfl⟩

theorem eq_of_id (keyed : (idsOf table).Nodup) {r' : Row} (hr : r ∈ contents table)
    (hr' : r' ∈ contents table) (same : r.id = r'.id) : r = r' := by
  rw [idsOf_eq] at keyed
  exact List.inj_on_of_nodup_map keyed hr hr' same

theorem mem_rowsOf (h : r ∈ rowsOf ids table) : r.id ∈ ids ∧ ∃ s ∈ table, s.row = r := by
  simp only [rowsOf, List.mem_filterMap, Option.map_eq_some_iff] at h
  obtain ⟨id, hid, s, hs, rfl⟩ := h
  have same : s.row.id = id := by simpa using List.find?_some hs
  rw [same]
  exact ⟨hid, s, List.mem_of_find?_eq_some hs, rfl⟩

theorem rowsOf_ids (h : ∀ id ∈ ids, id ∈ idsOf table) : (rowsOf ids table).map Row.id = ids := by
  induction ids with
  | nil => rfl
  | cons id ids ih =>
    have rest := ih fun i hi => h i (List.mem_cons_of_mem _ hi)
    obtain ⟨s, hs, same⟩ := List.mem_map.mp (h id List.mem_cons_self)
    have found : ∃ t, table.find? (fun s => s.row.id = id) = some t := by
      rw [← Option.isSome_iff_exists, List.find?_isSome]
      exact ⟨s, hs, by simpa using same⟩
    obtain ⟨t, ht⟩ := found
    have key : t.row.id = id := by simpa using List.find?_some ht
    rw [rowsOf, List.filterMap_cons, ht]
    simp only [Option.map_some, List.map_cons, key]
    exact congrArg (id :: ·) rest

theorem mem_unsent {s : Stored} :
    s ∈ unsent locked table ↔ s ∈ table ∧ s.sentAt = none ∧ s.row.id ∉ locked := by
  simp [unsent]

theorem Claims.mem (h : Claims limit locked ids table) (hid : id ∈ ids) :
    ∃ s ∈ unsent locked table, s.row.id = id := by
  have contained := h.2.2.1 id hid
  rw [List.contains_iff_mem] at contained
  obtain ⟨s, hs, same⟩ := List.mem_map.mp contained
  exact ⟨s, hs, same⟩

theorem Claims.mem_ids (h : Claims limit locked ids table) (hid : id ∈ ids) : id ∈ idsOf table := by
  obtain ⟨s, hs, same⟩ := h.mem hid
  exact List.mem_map.mpr ⟨s, (mem_unsent.mp hs).1, same⟩

theorem Claims.rowIds (h : Claims limit locked ids table) :
    (rowsOf ids (bump ids table)).map Row.id = ids := by
  apply rowsOf_ids
  intro id hid
  rw [idsOf_bump]
  exact h.mem_ids hid

theorem Claims.all (h : Claims limit locked ids table)
    (below : (unsent locked table).length ≤ limit) {s : Stored} (hs : s ∈ unsent locked table) :
    s.row.id ∈ ids := by
  obtain ⟨-, nodup, mem, length, -⟩ := h
  have subset : ids ⊆ idsOf (unsent locked table) := fun id hid => by
    simpa using mem id hid
  have perm : ids.Perm (idsOf (unsent locked table)) := by
    apply (List.subperm_of_subset nodup subset).perm_of_length_le
    simp only [idsOf, List.length_map]
    omega
  exact perm.mem_iff.mpr (List.mem_map.mpr ⟨s, hs, rfl⟩)

def Sent (table : List Stored) (id : Nat) : Prop :=
  ∃ s ∈ table, s.row.id = id ∧ s.sentAt ≠ none

theorem Sent.append (h : Sent table id) (added : List Stored) : Sent (table ++ added) id := by
  obtain ⟨s, hs, same, hsent⟩ := h
  exact ⟨s, List.mem_append_left _ hs, same, hsent⟩

theorem Sent.bump (h : Sent table id) (ids : List Nat) : Sent (bump ids table) id := by
  obtain ⟨s, hs, same, hsent⟩ := h
  refine ⟨_, List.mem_map.mpr ⟨s, hs, rfl⟩, ?_, ?_⟩
  · split_ifs <;> exact same
  · split_ifs <;> exact hsent

theorem Sent.stamp (h : Sent table id) (id' : Nat) (now : Int) : Sent (stamp id' now table) id := by
  obtain ⟨s, hs, same, hsent⟩ := h
  refine ⟨_, List.mem_map.mpr ⟨s, hs, rfl⟩, ?_, ?_⟩
  · split_ifs <;> exact same
  · split_ifs
    · simp
    · exact hsent

theorem sent_stamp (h : id ∈ idsOf table) (now : Int) : Sent (stamp id now table) id := by
  obtain ⟨s, hs, same⟩ := List.mem_map.mp h
  refine ⟨{ s with sentAt := some now }, List.mem_map.mpr ⟨s, hs, if_pos same⟩, same, ?_⟩
  simp

theorem Claims.not_sent (h : Claims limit locked ids table) (keyed : (idsOf table).Nodup)
    (hid : id ∈ ids) : ¬Sent table id := by
  rintro ⟨s, hs, same, hsent⟩
  obtain ⟨s', hs', same'⟩ := h.mem hid
  rw [mem_unsent] at hs'
  have equal : s = s' := List.inj_on_of_nodup_map keyed hs hs'.1 (same.trans same'.symm)
  rw [equal] at hsent
  exact hsent hs'.2.1

def Fetched (table : List Stored) (r : Row) : Prop :=
  ∃ s ∈ table, untried s.row = untried r ∧ s.row.attempts ≠ 0

theorem Fetched.append (h : Fetched table r) (added : List Stored) :
    Fetched (table ++ added) r := by
  obtain ⟨s, hs, same, hattempts⟩ := h
  exact ⟨s, List.mem_append_left _ hs, same, hattempts⟩

theorem Fetched.bump (h : Fetched table r) (ids : List Nat) : Fetched (bump ids table) r := by
  obtain ⟨s, hs, same, hattempts⟩ := h
  refine ⟨_, List.mem_map.mpr ⟨s, hs, rfl⟩, ?_, ?_⟩
  · split_ifs <;> exact same
  · split_ifs
    · simp
    · exact hattempts

theorem Fetched.stamp (h : Fetched table r) (id : Nat) (now : Int) :
    Fetched (stamp id now table) r := by
  obtain ⟨s, hs, same, hattempts⟩ := h
  refine ⟨_, List.mem_map.mpr ⟨s, hs, rfl⟩, ?_, ?_⟩
  · split_ifs <;> exact same
  · split_ifs <;> exact hattempts

theorem fetched_rowsOf (h : r ∈ rowsOf ids (bump ids table)) : Fetched (bump ids table) r := by
  obtain ⟨hid, s, hs, rfl⟩ := mem_rowsOf h
  refine ⟨s, hs, rfl, ?_⟩
  obtain ⟨t, ht, rfl⟩ := List.mem_map.mp hs
  split_ifs at hid ⊢ with claimed
  · simp
  · rw [List.contains_iff_mem] at claimed
    exact absurd hid claimed

end DxCommonGo.OutboxTable
