import DxCommonGo.OutboxWorld

/-! At-least-once delivery. `Recorded` ties the table to the transactions that wrote it, and
`Delivered` the sent rows to the publishes that returned nil. -/

namespace DxCommonGo.OutboxDelivery
open PgxPool (Finish)
open Runs Outbox Outbox.Phase OutboxTable OutboxWorld

/-- The rows of the table are those inserted by committed transactions, and the
pending rows those of open ones. -/
structure Recorded (w : World) : Prop where
  keyed : (idsOf w.table ++ w.pending.map fun p => p.2.id).Nodup
  untouched : ∀ p ∈ w.inserted, p.2.attempts = 0
  isOpen : ∀ p, p ∈ w.pending ↔ p ∈ w.inserted ∧ w.ended p.1 = none
  present : ∀ r, r ∈ contents w.table ↔
    ∃ tx, (tx, r) ∈ w.inserted ∧ w.ended tx = some .commit

/-- Whatever a dispatcher holds is in the table, and what is sent, or about to
be stamped, has been published. -/
structure Delivered (w : World) : Prop where
  stored : ∀ d, ∀ r ∈ (w.phase d).held, untried r ∈ contents w.table
  marked : ∀ d row rest full, w.phase d = .marking row rest full →
    ∃ p ∈ w.published, untried p.row = untried row
  sent : ∀ s ∈ w.table, s.sentAt ≠ none → ∃ p ∈ w.published, untried p.row = untried s.row

theorem recorded_new : Recorded {} := by
  constructor <;> simp [idsOf, contents]

theorem delivered_new : Delivered {} := by
  constructor <;> simp [World.phase, Phase.held]

variable {w : World}

theorem Recorded.congr {w' : World} (h : Recorded w) (table : contents w'.table = contents w.table)
    (pending : w'.pending = w.pending) (inserted : w'.inserted = w.inserted)
    (ended : w'.ended = w.ended) : Recorded w' := by
  constructor
  · rw [idsOf_eq, table, ← idsOf_eq, pending]
    exact h.keyed
  · rw [inserted]
    exact h.untouched
  · rw [pending, inserted, ended]
    exact h.isOpen
  · rw [table, inserted, ended]
    exact h.present

theorem untried_of_fresh {r : Row} (h : r.attempts = 0) : untried r = r := by
  cases r
  simp_all [untried]

theorem Recorded.insert (h : Recorded w) {tx : Nat} {row : Row} (hopen : w.ended tx = none)
    (huntried : row.attempts = 0) (hfresh : w.isFresh row.id = true) :
    Recorded { w with
      pending := w.pending ++ [(tx, row)], inserted := w.inserted ++ [(tx, row)] } := by
  simp only [World.isFresh, Bool.and_eq_true, Bool.not_eq_true', List.contains_eq_mem,
    decide_eq_false_iff_not] at hfresh
  constructor
  · simp only [List.map_append, List.map_cons, List.map_nil, ← List.append_assoc]
    apply h.keyed.append (List.nodup_singleton _)
    rw [List.disjoint_singleton, List.mem_append, not_or]
    exact hfresh
  · intro p hp
    rcases List.mem_append.mp hp with hp | hp
    · exact h.untouched p hp
    · rw [List.mem_singleton] at hp
      rw [hp, huntried]
  · intro p
    simp only [List.mem_append, List.mem_singleton, h.isOpen p]
    constructor
    · rintro (hp | rfl)
      · exact ⟨.inl hp.1, hp.2⟩
      · exact ⟨.inr rfl, hopen⟩
    · rintro ⟨hp | rfl, hended⟩
      · exact .inl ⟨hp, hended⟩
      · exact .inr rfl
  · intro r
    rw [h.present r]
    constructor
    · rintro ⟨tx', hins, hcommit⟩
      exact ⟨tx', List.mem_append_left _ hins, hcommit⟩
    · rintro ⟨tx', hins, hcommit⟩
      rcases List.mem_append.mp hins with hins | hins
      · exact ⟨tx', hins, hcommit⟩
      · rw [List.mem_singleton, Prod.mk.injEq] at hins
        rw [hins.1, hopen] at hcommit
        cases hcommit

theorem idsOf_commit (w : World) (tx : Nat) :
    idsOf (w.table ++ (w.pending.filter fun p => p.1 = tx).map fun p => ⟨p.2, none⟩) =
      idsOf w.table ++ (w.pending.filter fun p => p.1 = tx).map fun p => p.2.id := by
  simp [idsOf, Function.comp_def]

theorem Recorded.mem_pending (h : Recorded w) (tx : Nat) (r : Row) :
    (∃ p ∈ w.pending, p.1 = tx ∧ untried p.2 = r) ↔ (tx, r) ∈ w.pending := by
  have same : ∀ p ∈ w.pending, untried p.2 = p.2 := fun p hp =>
    untried_of_fresh (h.untouched p ((h.isOpen p).mp hp).1)
  constructor
  · rintro ⟨p, hp, rfl, rfl⟩
    rw [same p hp]
    exact hp
  · intro hp
    exact ⟨(tx, r), hp, rfl, same _ hp⟩

theorem Recorded.isOpen_end (h : Recorded w) (tx : Nat) (verdict : Finish) (p : Nat × Row) :
    p ∈ (w.pending.filter fun p => p.1 ≠ tx) ↔
      p ∈ w.inserted ∧ Function.update w.ended tx (some verdict) p.1 = none := by
  simp only [List.mem_filter, decide_eq_true_eq, h.isOpen p]
  by_cases same : p.1 = tx
  · simp [same]
  · simp [same]

theorem Recorded.commit (h : Recorded w) {tx : Nat} (hopen : w.ended tx = none) :
    Recorded { w with
      table := w.table ++ (w.pending.filter fun p => p.1 = tx).map fun p => ⟨p.2, none⟩
      pending := w.pending.filter fun p => p.1 ≠ tx
      ended := Function.update w.ended tx (some .commit) } := by
  constructor
  · dsimp only
    rw [idsOf_commit, List.append_assoc, ← List.map_append]
    have split : ((w.pending.filter fun p => p.1 = tx) ++
        w.pending.filter fun p => p.1 ≠ tx).Perm w.pending := by
      simpa using List.filter_append_perm (fun p => decide (p.1 = tx)) w.pending
    exact ((split.map fun p => p.2.id).append_left (idsOf w.table)).nodup_iff.mpr h.keyed
  · exact h.untouched
  · exact h.isOpen_end tx _
  · intro r
    have split : r ∈ contents (w.table ++
        (w.pending.filter fun p => p.1 = tx).map fun p => ⟨p.2, none⟩) ↔
        r ∈ contents w.table ∨ (tx, r) ∈ w.pending := by
      rw [← h.mem_pending tx r]
      simp [contents]
    dsimp only
    rw [split, h.present r, h.isOpen]
    constructor
    · rintro (⟨tx', hins, hcommit⟩ | ⟨hins, -⟩)
      · have other : tx' ≠ tx := by
          rintro rfl
          simp [hopen] at hcommit
        exact ⟨tx', hins, by simpa [other] using hcommit⟩
      · exact ⟨tx, hins, by simp⟩
    · rintro ⟨tx', hins, hcommit⟩
      by_cases same : tx' = tx
      · subst same
        exact .inr ⟨hins, hopen⟩
      · exact .inl ⟨tx', hins, by simpa [same] using hcommit⟩

theorem Recorded.rollback (h : Recorded w) {tx : Nat} (hopen : w.ended tx = none) :
    Recorded { w with
      pending := w.pending.filter fun p => p.1 ≠ tx
      ended := Function.update w.ended tx (some .rollback) } := by
  constructor
  · exact h.keyed.sublist ((List.filter_sublist.map _).append_left _)
  · exact h.untouched
  · exact h.isOpen_end tx _
  · intro r
    rw [h.present r]
    apply exists_congr
    intro tx'
    by_cases same : tx' = tx
    · simp [same, hopen]
    · simp [same]

theorem contents_applied (id : Nat) (applied : Option Int) (table : List Stored) :
    contents (applied.elim table fun now => stamp id now table) = contents table := by
  cases applied with
  | none => rfl
  | some now => exact contents_stamp id now table

theorem Recorded.step {ds : Nat → Dispatcher} {w w' : World} {e : Event} (h : Recorded w)
    (t : Transition ds w e w') : Recorded w' := by
  cases t with
  | insert tx row hopen huntried hfresh => exact h.insert hopen huntried hfresh
  | commit tx hopen => exact h.commit hopen
  | rollback tx hopen => exact h.rollback hopen
  | kick | wake | publish | publishFails | crash => exact h.congr rfl rfl rfl rfl
  | fetch d locked ids => exact h.congr (contents_bump ids w.table) rfl rfl rfl
  | fetchFails d err locked ids => exact h.congr (contents_bump ids w.table) rfl rfl rfl
  | mark d now row => exact h.congr (contents_stamp row.id now w.table) rfl rfl rfl
  | markFails d err applied row =>
    exact h.congr (contents_applied row.id applied w.table) rfl rfl rfl

theorem Delivered.setLocal (h : Delivered w) (d : Nat) (l : Local)
    (stored : ∀ r ∈ l.phase.held, untried r ∈ contents w.table)
    (marked : ∀ row rest full, l.phase = .marking row rest full →
      ∃ p ∈ w.published, untried p.row = untried row) : Delivered (w.setLocal d l) := by
  constructor
  · apply forall_setLocal_phase w fun _ p => ∀ r ∈ p.held, untried r ∈ contents w.table
    · exact stored
    · exact fun d' _ => h.stored d'
  · apply forall_setLocal_phase w fun _ p => ∀ row rest full, p = .marking row rest full →
      ∃ p ∈ w.published, untried p.row = untried row
    · exact marked
    · exact fun d' _ => h.marked d'
  · exact h.sent

theorem Delivered.idle (h : Delivered w) (d : Nat) (failed : Bool) :
    Delivered (w.setPhase d (.idle failed)) := by
  apply h.setLocal
  · simp [Phase.held]
  · simp

theorem Delivered.withTable (h : Delivered w) {table : List Stored}
    (same : contents table = contents w.table)
    (sent : ∀ s ∈ table, s.sentAt ≠ none → ∃ p ∈ w.published, untried p.row = untried s.row) :
    Delivered { w with table } := by
  constructor
  · intro d r hr
    rw [same]
    exact h.stored d r hr
  · exact h.marked
  · exact sent

theorem Delivered.bump (h : Delivered w) (ids : List Nat) :
    Delivered { w with table := OutboxTable.bump ids w.table } := by
  apply h.withTable (contents_bump ids w.table)
  intro s hs hsent
  obtain ⟨s', hs', rfl⟩ := List.mem_map.mp hs
  split_ifs at hsent ⊢
  · exact h.sent s' hs' hsent
  · exact h.sent s' hs' hsent

theorem Delivered.stamp (recorded : Recorded w) (h : Delivered w) {d : Nat} {row : Row}
    {rest : List Row} {full : Bool} (hphase : w.phase d = .marking row rest full) (now : Int) :
    Delivered { w with table := OutboxTable.stamp row.id now w.table } := by
  apply h.withTable (contents_stamp row.id now w.table)
  intro s hs hsent
  obtain ⟨s', hs', rfl⟩ := List.mem_map.mp hs
  split_ifs at hsent ⊢ with hid
  · have keyed := (List.nodup_append.mp recorded.keyed).1
    have held : untried row ∈ contents w.table := h.stored d row (by simp [hphase, Phase.held])
    have same : untried s'.row = untried row := eq_of_id keyed (mem_contents hs') held hid
    rw [same]
    exact h.marked d row rest full hphase
  · exact h.sent s' hs' hsent

theorem Delivered.commit (h : Delivered w) {added : List Stored}
    (hadded : ∀ s ∈ added, s.sentAt = none) (pending : List (Nat × Row))
    (ended : Nat → Option Finish) :
    Delivered { w with table := w.table ++ added, pending, ended } := by
  constructor
  · intro d r hr
    simp only [contents, List.map_append, List.mem_append]
    exact .inl (h.stored d r hr)
  · exact h.marked
  · intro s hs hsent
    rcases List.mem_append.mp hs with hs | hs
    · exact h.sent s hs hsent
    · exact absurd (hadded s hs) hsent

theorem Delivered.record (h : Delivered w) (d : Nat) (row : Row) : Delivered (w.record d row) := by
  constructor
  · exact h.stored
  · intro d row rest full hphase
    obtain ⟨q, hq, same⟩ := h.marked d row rest full hphase
    exact ⟨q, List.mem_append_left _ hq, same⟩
  · intro s hs hsent
    obtain ⟨q, hq, same⟩ := h.sent s hs hsent
    exact ⟨q, List.mem_append_left _ hq, same⟩

theorem Delivered.step {ds : Nat → Dispatcher} {w w' : World} {e : Event} (recorded : Recorded w)
    (h : Delivered w) (t : Transition ds w e w') : Delivered w' := by
  cases t with
  | insert | rollback => exact ⟨h.stored, h.marked, h.sent⟩
  | commit tx => exact h.commit (by simp) _ _
  | kick d => exact h.setLocal d _ (h.stored d) (h.marked d)
  | wake d | crash d =>
    apply h.setLocal
    · simp [Phase.held]
    · simp
  | fetch d locked ids =>
    apply (h.bump ids).setLocal
    · intro r hr
      simp only [held_afterFetch] at hr
      obtain ⟨-, s, hs, rfl⟩ := mem_rowsOf hr
      exact mem_contents hs
    · intro row rest full hphase
      exact absurd hphase (afterFetch_ne_marking _ _)
  | fetchFails d err locked ids => exact (h.bump ids).idle d true
  | publish d row rest full hphase =>
    apply (h.record d row).setLocal
    · intro r hr
      apply h.stored d
      rw [hphase]
      exact hr
    · intro row' rest' full' same
      cases same
      exact ⟨w.publication d row, List.mem_append_right _ List.mem_cons_self, rfl⟩
  | publishFails d => exact h.idle d true
  | mark d now row rest full hphase =>
    apply (Delivered.stamp recorded h hphase now).setLocal
    · intro r hr
      simp only [held_next] at hr
      rw [contents_stamp]
      apply h.stored d
      simp [hphase, Phase.held, hr]
    · intro row' rest' full' same
      exact absurd same (next_ne_marking _ _)
  | markFails d err applied row rest full hphase =>
    cases applied with
    | none => exact h.idle d true
    | some now => exact (Delivered.stamp recorded h hphase now).idle d true

end DxCommonGo.OutboxDelivery
