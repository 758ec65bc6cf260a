import DxCommonGo.OutboxDelivery

/-! The order of publishes of a single dispatcher. FetchUnsent claims the oldest rows but returns
them in any order. -/

namespace DxCommonGo.OutboxOrder
open Outbox Outbox.Phase OutboxTable OutboxWorld OutboxDelivery

def Single : Event → Prop
  | .fetch d locked _ | .fetchFails d _ locked _ => d = 0 ∧ locked = []
  | .kick d | .wake d _ | .publish d | .publishFails d _ | .mark d _ | .markFails d _ _
  | .crash d => d = 0
  | .insert _ _ | .commit _ | .rollback _ => True

def FetchInOrder (w : World) : Event → Prop
  | .fetch _ _ ids =>
    (rowsOf ids (bump ids w.table)).Pairwise fun r r' => r.createdAt < r'.createdAt
  | _ => True

instance : (e : Event) → Decidable (Single e)
  | .fetch d locked _ | .fetchFails d _ locked _ =>
    inferInstanceAs (Decidable (d = 0 ∧ locked = []))
  | .kick d | .wake d _ | .publish d | .publishFails d _ | .mark d _ | .markFails d _ _
  | .crash d => inferInstanceAs (Decidable (d = 0))
  | .insert _ _ | .commit _ | .rollback _ => isTrue trivial

instance (w : World) : (e : Event) → Decidable (FetchInOrder w e)
  | .fetch _ _ _ => inferInstanceAs (Decidable (List.Pairwise _ _))
  | .insert _ _ | .commit _ | .rollback _ | .kick _ | .wake _ _ | .fetchFails _ _ _ _
  | .publish _ | .publishFails _ _ | .mark _ _ | .markFails _ _ _ | .crash _ => isTrue trivial

/-- A row about to be published overtakes no older row that was committed before
the drain began. -/
def NoneOvertaken (w : World) (e : Event) : Prop :=
  ∀ row rest full, e = .publish 0 → w.phase 0 = .publishing row rest full →
    ∀ c ∈ contents w.table, c.id ∈ (w.locals 0).began → c.createdAt < row.createdAt →
      c.id ∈ publishedIds w

/-- The rows in hand are in order, and every row among `known` that is neither
published nor in hand is no older than they are. -/
structure Queued (known : Nat → Prop) (w : World) : Prop where
  sorted : (w.phase 0).unpublished.Pairwise fun r r' => r.createdAt < r'.createdAt
  behind : ∀ r ∈ (w.phase 0).unpublished, ∀ c ∈ contents w.table, known c.id →
    c.id ∉ publishedIds w → c.id ∉ (w.phase 0).unpublished.map Row.id → r.createdAt ≤ c.createdAt

variable {known : Nat → Prop} {w : World} {rest : List Row}

theorem queued_empty (h : (w.phase 0).unpublished = []) : Queued known w := by
  constructor
  · rw [h]
    exact .nil
  · rw [h]
    exact fun r hr => absurd hr List.not_mem_nil

theorem Queued.congr {w' : World} (h : Queued known w)
    (unpublished : (w'.phase 0).unpublished = (w.phase 0).unpublished)
    (published : w'.published = w.published) (same : contents w'.table = contents w.table) :
    Queued known w' := by
  constructor
  · rw [unpublished]
    exact h.sorted
  · rw [unpublished, publishedIds, published, same]
    exact h.behind

theorem Queued.fetch {ds : Nat → Dispatcher} {ids : List Nat} (recorded : Recorded w)
    (delivered : Delivered w) (claims : Claims (ds 0).batch [] ids w.table)
    (sorted : (rowsOf ids (bump ids w.table)).Pairwise fun r r' => r.createdAt < r'.createdAt) :
    Queued known ({ w with table := bump ids w.table }.setPhase 0
      (.afterFetch (ds 0) (.ok (rowsOf ids (bump ids w.table))))) := by
  have keyed := (List.nodup_append.mp recorded.keyed).1
  constructor
  · rw [setPhase_phase_self, unpublished_afterFetch]
    exact sorted
  · intro r hr c hc _ unpublished notClaimed
    rw [setPhase_phase_self, unpublished_afterFetch] at hr notClaimed
    rw [claims.rowIds] at notClaimed
    change c ∈ contents (bump ids w.table) at hc
    rw [contents_bump] at hc
    obtain ⟨s, hs, rfl⟩ := List.mem_map.mp hc
    have hunsent : s.sentAt = none := by
      by_contra hsent
      obtain ⟨p, hp, same⟩ := delivered.sent s hs hsent
      have sameId := congrArg Row.id same
      exact unpublished (List.mem_map.mpr ⟨p, hp, sameId⟩)
    obtain ⟨claimed, s', hs', rfl⟩ := mem_rowsOf hr
    obtain ⟨t, ht, sameId⟩ := claims.mem claimed
    have stored := mem_contents hs'
    rw [contents_bump] at stored
    have same : untried t.row = untried s'.row :=
      eq_of_id keyed (mem_contents (mem_unsent.mp ht).1) stored sameId
    have older := claims.2.2.2.2 s (mem_unsent.mpr ⟨hs, hunsent, List.not_mem_nil⟩)
      (by simpa using notClaimed) t ht (by simpa [sameId] using claimed)
    have sameTime := congrArg Row.createdAt same
    simp only [untried_createdAt] at sameTime ⊢
    omega

theorem Queued.publish (h : Queued known w) {row : Row} {full : Bool}
    (hphase : w.phase 0 = .publishing row rest full) :
    Queued known ((w.record 0 row).setPhase 0 (.marking row rest full)) := by
  have sorted := h.sorted
  have behind := h.behind
  rw [hphase] at sorted behind
  constructor
  · rw [setPhase_phase_self]
    exact (List.pairwise_cons.mp sorted).2
  · intro r hr c hc hknown unpublished notRest
    rw [setPhase_phase_self] at hr notRest
    change c.id ∉ publishedIds (w.record 0 row) at unpublished
    rw [publishedIds_record, List.mem_append, List.mem_singleton, not_or] at unpublished
    apply behind r (List.mem_cons_of_mem row hr) c hc hknown unpublished.1
    rw [Phase.unpublished, List.map_cons, List.mem_cons, not_or]
    exact ⟨unpublished.2, notRest⟩

theorem Queued.mark (h : Queued known w) {row : Row} {full : Bool}
    (hphase : w.phase 0 = .marking row rest full) (now : Int) :
    Queued known ({ w with table := stamp row.id now w.table }.setPhase 0 (.next full rest)) := by
  apply h.congr
  · rw [setPhase_phase_self, unpublished_next, hphase]
    rfl
  · rfl
  · exact contents_stamp row.id now w.table

theorem Queued.commit (h : Queued known w) {added : List Stored}
    (hadded : ∀ s ∈ added, known s.row.id →
      ∀ r ∈ (w.phase 0).unpublished, r.createdAt ≤ s.row.createdAt) {w' : World}
    (locals : w'.locals = w.locals) (published : w'.published = w.published)
    (table : w'.table = w.table ++ added) : Queued known w' := by
  have phase : w'.phase 0 = w.phase 0 := by rw [World.phase, locals]; rfl
  constructor
  · rw [phase]
    exact h.sorted
  · rw [phase, publishedIds, published, table, contents, List.map_append]
    intro r hr c hc hknown unpublished notHeld
    rcases List.mem_append.mp hc with hc | hc
    · exact h.behind r hr c hc hknown unpublished notHeld
    · obtain ⟨s, hs, rfl⟩ := List.mem_map.mp hc
      exact hadded s hs hknown r hr

theorem Queued.head_le (recorded : Recorded w) (delivered : Delivered w) (h : Queued known w)
    {row : Row} {full : Bool} (hphase : w.phase 0 = .publishing row rest full) {c : Row}
    (hc : c ∈ contents w.table) (hknown : known c.id) (unpublished : c.id ∉ publishedIds w) :
    row.createdAt ≤ c.createdAt := by
  have keyed := (List.nodup_append.mp recorded.keyed).1
  have sorted := h.sorted
  have behind := h.behind
  have stored := delivered.stored 0
  rw [hphase] at sorted behind stored
  by_cases inHand : c.id ∈ (row :: rest).map Row.id
  · obtain ⟨r, hr, sameId⟩ := List.mem_map.mp inHand
    have same : untried r = c := eq_of_id keyed (stored r hr) hc sameId
    have sameTime := congrArg Row.createdAt same
    rw [← sameTime, untried_createdAt]
    rcases List.mem_cons.mp hr with rfl | hr
    · exact le_rfl
    · exact ((List.pairwise_cons.mp sorted).1 r hr).le
  · exact behind row List.mem_cons_self c hc hknown unpublished inHand

/-- The rows committed when the drain began are in the table, and the dispatcher
goes through them in order. -/
structure Fair (w : World) : Prop where
  began : ∀ id ∈ (w.locals 0).began, id ∈ idsOf w.table
  queued : Queued (fun id => id ∈ (w.locals 0).began) w

theorem fair_new : Fair {} := by
  refine ⟨?_, queued_empty rfl⟩
  simp

theorem Fair.noneOvertaken (recorded : Recorded w) (delivered : Delivered w) (h : Fair w)
    (e : Event) : NoneOvertaken w e := by
  intro row rest full _ hphase c hc began older
  by_contra unpublished
  have younger := h.queued.head_le recorded delivered hphase hc began unpublished
  omega

theorem Fair.next {w' : World} (h : Fair w) (began : (w'.locals 0).began = (w.locals 0).began)
    (ids : ∀ id ∈ idsOf w.table, id ∈ idsOf w'.table)
    (queued : Queued (fun id => id ∈ (w.locals 0).began) w') : Fair w' := by
  constructor
  · rw [began]
    exact fun id hid => ids id (h.began id hid)
  · rw [began]
    exact queued

theorem Fair.commit (recorded : Recorded w) (h : Fair w) (tx : Nat)
    (ended : Nat → Option PgxPool.Finish) :
    Fair { w with
      table := w.table ++ (w.pending.filter fun p => p.1 = tx).map fun p => ⟨p.2, none⟩
      pending := w.pending.filter fun p => p.1 ≠ tx, ended } := by
  refine h.next rfl (fun id hid => ?_) ?_
  · rw [idsOf_commit]
    exact List.mem_append_left _ hid
  · refine h.queued.commit (fun s hs began => ?_) rfl rfl rfl
    obtain ⟨p, hp, rfl⟩ := List.mem_map.mp hs
    have disjoint := (List.nodup_append.mp recorded.keyed).2.2
    have pending : p.2.id ∈ w.pending.map fun p => p.2.id :=
      List.mem_map.mpr ⟨p, (List.mem_filter.mp hp).1, rfl⟩
    exact absurd rfl (disjoint _ (h.began _ began) _ pending)

theorem Fair.failed (h : Fair w) {table : List Stored} (ids : idsOf table = idsOf w.table) :
    Fair ({ w with table }.setPhase 0 (.idle true)) := by
  refine h.next ?_ (fun id hid => ?_) (queued_empty ?_)
  · rw [setPhase_locals_self]
  · change id ∈ idsOf table
    rw [ids]
    exact hid
  · rw [setPhase_phase_self]
    rfl

theorem Fair.step {ds : Nat → Dispatcher} {w w' : World} {e : Event} (recorded : Recorded w)
    (delivered : Delivered w) (h : Fair w) (t : Transition ds w e w') (single : Single e)
    (inOrder : FetchInOrder w e) : Fair w' := by
  cases t with
  | insert | rollback => exact h.next rfl (fun _ hid => hid) (h.queued.congr rfl rfl rfl)
  | commit tx => exact h.commit recorded tx _
  | kick d =>
    cases single
    refine h.next ?_ (fun _ hid => hid) (h.queued.congr ?_ rfl rfl)
    · rw [setLocal_locals_self]
    · rw [setLocal_phase_self]
      rfl
  | wake d =>
    cases single
    refine ⟨?_, queued_empty ?_⟩
    · rw [setLocal_locals_self]
      exact fun _ hid => hid
    · rw [setLocal_phase_self]
      rfl
  | crash d =>
    cases single
    refine ⟨?_, queued_empty ?_⟩
    · rw [setLocal_locals_self]
      exact fun _ hid => absurd hid List.not_mem_nil
    · rw [setLocal_phase_self]
      rfl
  | fetch d locked ids hphase claims =>
    obtain ⟨rfl, rfl⟩ := single
    refine h.next ?_ (fun id hid => ?_)
      (Queued.fetch recorded delivered claims inOrder)
    · rw [setPhase_locals_self]
    · change id ∈ idsOf (bump ids w.table)
      rw [idsOf_bump]
      exact hid
  | fetchFails d err locked ids =>
    obtain ⟨rfl, rfl⟩ := single
    exact h.failed (idsOf_bump ids w.table)
  | publish d row rest full hphase =>
    cases single
    refine h.next ?_ (fun _ hid => hid) (h.queued.publish hphase)
    rw [setPhase_locals_self]
    rfl
  | publishFails d =>
    cases single
    exact h.failed rfl
  | mark d now row rest full hphase =>
    cases single
    refine h.next ?_ (fun id hid => ?_) (h.queued.mark hphase now)
    · rw [setPhase_locals_self]
    · change id ∈ idsOf (stamp row.id now w.table)
      rw [idsOf_stamp]
      exact hid
  | markFails d err applied row =>
    cases single
    cases applied with
    | none => exact h.failed rfl
    | some now => exact h.failed (idsOf_stamp row.id now w.table)

end DxCommonGo.OutboxOrder
