import DxCommonGo.OutboxOrder

/-! The order of first publishes over a whole run. `created_at` is the time a transaction began, so
a row can commit below one that has already been published. -/

namespace DxCommonGo.OutboxFirsts
open Runs Outbox Outbox.Phase OutboxTable OutboxWorld OutboxDelivery OutboxOrder

def DistinctTimes (w : World) : Prop := ((contents w.table).map Row.createdAt).Nodup

def CommitInOrder (w : World) : Event → Prop
  | .commit tx => ∀ p ∈ w.pending, p.1 = tx →
    ∀ s ∈ w.table, s.row.attempts ≠ 0 → s.row.createdAt < p.2.createdAt
  | _ => True

def firstsFrom (seen : List Nat) : List Publication → List Publication
  | [] => []
  | p :: ps =>
    if seen.contains p.row.id then firstsFrom seen ps
    else p :: firstsFrom (p.row.id :: seen) ps

def firsts (ps : List Publication) : List Publication := firstsFrom [] ps

/-- First publishes are in the order of `created_at`, among the rows committed
before the drain that published them began. -/
def InOrder (w : World) : Prop :=
  ((firsts w.published).filter Publication.early).Pairwise
    fun p q => p.row.createdAt < q.row.createdAt

/-- The run so far in order: what is published lies below what is not, and what is
published or in hand has been fetched. -/
structure Chronological (w : World) : Prop where
  queued : Queued (fun _ => True) w
  above : ∀ p ∈ w.published, ∀ c ∈ contents w.table, c.id ∉ publishedIds w →
    p.row.createdAt < c.createdAt
  ordered : (firsts w.published).Pairwise fun p q => p.row.createdAt < q.row.createdAt
  heldFetched : ∀ r ∈ (w.phase 0).held, Fetched w.table r
  publishedFetched : ∀ p ∈ w.published, Fetched w.table p.row

theorem chronological_new : Chronological {} := by
  refine ⟨queued_empty rfl, ?_, .nil, ?_, ?_⟩ <;> simp [World.phase, Phase.held]

theorem firstsFrom_append (seen : List Nat) (ps : List Publication) (p : Publication) :
    firstsFrom seen (ps ++ [p]) = firstsFrom seen ps ++
      if p.row.id ∈ seen ∨ p.row.id ∈ ps.map fun q => q.row.id then [] else [p] := by
  induction ps generalizing seen with
  | nil => simp [firstsFrom]
  | cons q ps ih =>
    simp only [List.cons_append, firstsFrom, List.contains_eq_mem, decide_eq_true_eq,
      List.map_cons, List.mem_cons]
    by_cases hq : q.row.id ∈ seen
    · have absorb : (p.row.id ∈ seen ∨ p.row.id = q.row.id ∨ p.row.id ∈ ps.map fun q => q.row.id) ↔
          (p.row.id ∈ seen ∨ p.row.id ∈ ps.map fun q => q.row.id) := by
        constructor
        · rintro (h | h | h)
          · exact .inl h
          · exact .inl (h ▸ hq)
          · exact .inr h
        · rintro (h | h)
          · exact .inl h
          · exact .inr (.inr h)
      simp only [hq, if_true, ih, absorb]
    · simp only [hq, if_false, ih, List.cons_append, List.mem_cons, or_left_comm, or_assoc]

theorem mem_of_mem_firstsFrom {seen : List Nat} {ps : List Publication} {p : Publication}
    (h : p ∈ firstsFrom seen ps) : p ∈ ps := by
  induction ps generalizing seen with
  | nil => exact h
  | cons q ps ih =>
    rw [firstsFrom] at h
    split_ifs at h
    · exact List.mem_cons_of_mem q (ih h)
    · rcases List.mem_cons.mp h with rfl | h
      · exact List.mem_cons_self
      · exact List.mem_cons_of_mem q (ih h)

variable {w : World}

theorem DistinctTimes.lt (h : DistinctTimes w) {r c : Row} (hr : r ∈ contents w.table)
    (hc : c ∈ contents w.table) (hne : r.id ≠ c.id) (hle : r.createdAt ≤ c.createdAt) :
    r.createdAt < c.createdAt := by
  apply lt_of_le_of_ne hle
  intro same
  exact hne (congrArg Row.id (List.inj_on_of_nodup_map h hr hc same))

theorem Chronological.next {w' : World} (h : Chronological w) (queued : Queued (fun _ => True) w')
    (published : w'.published = w.published) (same : contents w'.table = contents w.table)
    (fetched : ∀ r, Fetched w.table r → Fetched w'.table r)
    (held : ∀ r ∈ (w'.phase 0).held, Fetched w'.table r) : Chronological w' := by
  refine ⟨queued, ?_, ?_, held, ?_⟩
  · rw [publishedIds, published, same]
    exact h.above
  · rw [published]
    exact h.ordered
  · rw [published]
    exact fun p hp => fetched _ (h.publishedFetched p hp)

theorem Chronological.failed (h : Chronological w) {table : List Stored}
    (same : contents table = contents w.table)
    (fetched : ∀ r, Fetched w.table r → Fetched table r) :
    Chronological ({ w with table }.setPhase 0 (.idle true)) := by
  refine h.next (queued_empty ?_) rfl same fetched ?_
  · rw [setPhase_phase_self]
    rfl
  · rw [setPhase_phase_self]
    exact fun r hr => absurd hr List.not_mem_nil

theorem Chronological.commit (h : Chronological w) {tx : Nat}
    (inOrder : CommitInOrder w (.commit tx)) (ended : Nat → Option PgxPool.Finish) :
    Chronological { w with
      table := w.table ++ (w.pending.filter fun p => p.1 = tx).map fun p => ⟨p.2, none⟩
      pending := w.pending.filter fun p => p.1 ≠ tx, ended } := by
  have later : ∀ s ∈ (w.pending.filter fun p => p.1 = tx).map fun p => (⟨p.2, none⟩ : Stored),
      ∀ r, Fetched w.table r → r.createdAt < s.row.createdAt := by
    intro s hs r hr
    obtain ⟨p, hp, rfl⟩ := List.mem_map.mp hs
    obtain ⟨hpending, htx⟩ := List.mem_filter.mp hp
    obtain ⟨t, ht, same, attempts⟩ := hr
    have sameTime := congrArg Row.createdAt same
    have above := inOrder p hpending (by simpa using htx) t ht attempts
    simp only [untried_createdAt] at sameTime ⊢
    rw [← sameTime]
    exact above
  refine ⟨?_, ?_, h.ordered, ?_, ?_⟩
  · refine h.queued.commit (fun s hs _ r hr => ?_) rfl rfl rfl
    exact (later s hs r (h.heldFetched r (mem_held hr))).le
  · intro p hp c hc unpublished
    simp only [contents, List.map_append] at hc
    rcases List.mem_append.mp hc with hc | hc
    · exact h.above p hp c hc unpublished
    · obtain ⟨s, hs, rfl⟩ := List.mem_map.mp hc
      exact later s hs p.row (h.publishedFetched p hp)
  · exact fun r hr => (h.heldFetched r hr).append _
  · exact fun p hp => (h.publishedFetched p hp).append _

theorem Chronological.publish (recorded : Recorded w) (delivered : Delivered w)
    (distinct : DistinctTimes w) (h : Chronological w) {row : Row} {rest : List Row} {full : Bool}
    (hphase : w.phase 0 = .publishing row rest full) :
    Chronological ((w.record 0 row).setPhase 0 (.marking row rest full)) := by
  have rowHeld : row ∈ (w.phase 0).held := by simp [hphase, Phase.held]
  have stored : untried row ∈ contents w.table := delivered.stored 0 row rowHeld
  have published : ((w.record 0 row).setPhase 0 (.marking row rest full)).published =
      w.published ++ [w.publication 0 row] := rfl
  refine ⟨h.queued.publish hphase, ?_, ?_, ?_, ?_⟩
  · intro p hp c hc unpublished
    change c.id ∉ publishedIds (w.record 0 row) at unpublished
    rw [publishedIds_record, List.mem_append, List.mem_singleton, not_or] at unpublished
    rw [published] at hp
    rcases List.mem_append.mp hp with hp | hp
    · exact h.above p hp c hc unpublished.1
    · rw [List.mem_singleton] at hp
      subst hp
      have le := h.queued.head_le recorded delivered hphase hc trivial unpublished.1
      change (untried row).createdAt < c.createdAt
      exact distinct.lt stored hc (fun same => unpublished.2 same.symm) le
  · rw [published, firsts, firstsFrom_append]
    split_ifs with old
    · rw [List.append_nil]
      exact h.ordered
    · rw [List.pairwise_append]
      refine ⟨h.ordered, List.pairwise_singleton _ _, ?_⟩
      intro p hp q hq
      rw [List.mem_singleton] at hq
      subst hq
      simp only [List.not_mem_nil, false_or] at old
      exact h.above p (mem_of_mem_firstsFrom hp) (untried row) stored old
  · intro r hr
    rw [setPhase_phase_self] at hr
    apply h.heldFetched
    rw [hphase]
    exact hr
  · intro p hp
    rw [published] at hp
    rcases List.mem_append.mp hp with hp | hp
    · exact h.publishedFetched p hp
    · rw [List.mem_singleton] at hp
      subst hp
      exact h.heldFetched row rowHeld

theorem Chronological.fetch {ds : Nat → Dispatcher} {ids : List Nat} (recorded : Recorded w)
    (delivered : Delivered w) (h : Chronological w) (claims : Claims (ds 0).batch [] ids w.table)
    (inOrder : FetchInOrder w (.fetch 0 [] ids)) :
    Chronological ({ w with table := bump ids w.table }.setPhase 0
      (.afterFetch (ds 0) (.ok (rowsOf ids (bump ids w.table))))) := by
  refine h.next (Queued.fetch recorded delivered claims inOrder) rfl
    (contents_bump ids w.table) (fun _ hr => hr.bump ids) ?_
  intro r hr
  rw [setPhase_phase_self, held_afterFetch] at hr
  exact fetched_rowsOf hr

theorem Chronological.mark (h : Chronological w) {row : Row} {rest : List Row} {full : Bool}
    (hphase : w.phase 0 = .marking row rest full) (now : Int) :
    Chronological ({ w with table := stamp row.id now w.table }.setPhase 0 (.next full rest)) := by
  refine h.next (h.queued.mark hphase now) rfl (contents_stamp row.id now w.table)
    (fun _ hr => hr.stamp row.id now) ?_
  intro r hr
  rw [setPhase_phase_self, held_next] at hr
  apply Fetched.stamp
  apply h.heldFetched
  rw [hphase]
  exact List.mem_cons_of_mem row hr

theorem Chronological.step {ds : Nat → Dispatcher} {w w' : World} {e : Event}
    (recorded : Recorded w) (delivered : Delivered w) (h : Chronological w)
    (t : Transition ds w e w') (single : Single e) (distinct : DistinctTimes w)
    (fetchInOrder : FetchInOrder w e) (commitInOrder : CommitInOrder w e) : Chronological w' := by
  cases t with
  | insert | rollback =>
    exact h.next (h.queued.congr rfl rfl rfl) rfl rfl (fun _ hr => hr) h.heldFetched
  | commit tx => exact h.commit commitInOrder _
  | kick d =>
    cases single
    refine h.next (h.queued.congr ?_ rfl rfl) rfl rfl (fun _ hr => hr) ?_
    · rw [setLocal_phase_self]
      rfl
    · rw [setLocal_phase_self]
      exact h.heldFetched
  | wake d | crash d =>
    cases single
    refine h.next (queued_empty ?_) rfl rfl (fun _ hr => hr) ?_
    · rw [setLocal_phase_self]
      rfl
    · rw [setLocal_phase_self]
      exact fun r hr => absurd hr List.not_mem_nil
  | fetch d locked ids hphase claims =>
    obtain ⟨rfl, rfl⟩ := single
    exact h.fetch recorded delivered claims fetchInOrder
  | fetchFails d err locked ids =>
    obtain ⟨rfl, rfl⟩ := single
    exact h.failed (contents_bump ids w.table) fun _ hr => hr.bump ids
  | publish d row rest full hphase =>
    cases single
    exact h.publish recorded delivered distinct hphase
  | publishFails d =>
    cases single
    exact h.failed rfl fun _ hr => hr
  | mark d now row rest full hphase =>
    cases single
    exact h.mark hphase now
  | markFails d err applied row =>
    cases single
    cases applied with
    | none => exact h.failed rfl fun _ hr => hr
    | some now => exact h.failed (contents_stamp row.id now w.table) fun _ hr => hr.stamp row.id now

/-- For a single dispatcher whose fetches return their rows in order, no row
overtakes an older one that was committed before the drain began; and if in
addition no row commits below one already fetched, first publishes are in order. -/
theorem publishes_in_order (ds : Nat → Dispatcher) (events : List Event) :
    (Along (step ds) (fun w e _ => Single e ∧ FetchInOrder w e) {} events →
      Along (step ds) (fun w e _ => NoneOvertaken w e) {} events) ∧
    (Along (step ds) (fun w e _ => Single e ∧ DistinctTimes w ∧ FetchInOrder w e ∧
        CommitInOrder w e) {} events →
      Always (step ds) InOrder {} events) := by
  constructor
  · intro h
    refine Along.of_invariant (fun w => Recorded w ∧ Delivered w ∧ Fair w) ?_
      ⟨recorded_new, delivered_new, fair_new⟩ h
    rintro w e w' hstep ⟨recorded, delivered, fair⟩ ⟨single, inOrder⟩
    have t := step_transition hstep
    exact ⟨⟨recorded.step t, delivered.step recorded t,
      fair.step recorded delivered t single inOrder⟩, fair.noneOvertaken recorded delivered e⟩
  · intro h
    refine ⟨.nil, ?_⟩
    refine Along.of_invariant (fun w => Recorded w ∧ Delivered w ∧ Chronological w) ?_
      ⟨recorded_new, delivered_new, chronological_new⟩ h
    rintro w e w' hstep ⟨recorded, delivered, chronological⟩ ⟨single, distinct, fetches, commits⟩
    have t := step_transition hstep
    have chronological' :=
      chronological.step recorded delivered t single distinct fetches commits
    exact ⟨⟨recorded.step t, delivered.step recorded t, chronological'⟩,
      chronological'.ordered.filter _⟩

instance (w : World) : Decidable (InOrder w) := inferInstanceAs (Decidable (List.Pairwise _ _))

instance (w : World) : Decidable (DistinctTimes w) := inferInstanceAs (Decidable (List.Nodup _))

instance (w : World) : (e : Event) → Decidable (CommitInOrder w e)
  | .commit tx => inferInstanceAs (Decidable (∀ p ∈ w.pending, p.1 = tx →
    ∀ s ∈ w.table, s.row.attempts ≠ 0 → s.row.createdAt < p.2.createdAt))
  | .insert _ _ | .rollback _ | .kick _ | .wake _ _ | .fetch _ _ _ | .fetchFails _ _ _ _
  | .publish _ | .publishFails _ _ | .mark _ _ | .markFails _ _ _ | .crash _ => isTrue trivial

def granted : Row := ⟨1, [], [], [], 10, 0⟩

def revoked : Row := ⟨2, [], [], [], 20, 0⟩

def drainRun (ids : List Nat) : List Event :=
  [.insert 0 granted, .insert 1 revoked, .commit 0, .commit 1, .wake 0 false, .fetch 0 [] ids,
    .publish 0, .mark 0 30, .publish 0, .mark 0 40]

theorem publishes_in_order_drain :
    Along (step fun _ => {}) (fun w e _ => NoneOvertaken w e) {} (drainRun [1, 2]) ∧
    Always (step fun _ => {}) InOrder {} (drainRun [1, 2]) := by
  have inOrder := publishes_in_order (fun _ => {}) (drainRun [1, 2])
  exact ⟨inOrder.1 (by decide), inOrder.2 (by decide)⟩

theorem publishes_out_of_order :
    Along (step fun _ => {}) (fun w e _ => Single e ∧ DistinctTimes w ∧ CommitInOrder w e) {}
      (drainRun [2, 1]) ∧
    ¬Always (step fun _ => {}) InOrder {} (drainRun [2, 1]) := by
  constructor
  · decide
  · decide

end DxCommonGo.OutboxFirsts
