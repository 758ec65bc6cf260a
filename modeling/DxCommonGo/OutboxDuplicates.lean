import DxCommonGo.OutboxDelivery

/-! Duplicate publishes. A claim ends with its statement, so a row that is fetched and not yet
marked can be fetched again; without failures this is the only way to a second publish. -/

namespace DxCommonGo.OutboxDuplicates
open Runs Outbox Outbox.Phase OutboxTable OutboxWorld OutboxDelivery

def Smooth : Event → Prop
  | .fetchFails _ _ _ _ | .publishFails _ _ | .markFails _ _ _ | .crash _ => False
  | _ => True

def Exclusive (w : World) (e : Event) : Prop :=
  ∀ d locked ids, e = .fetch d locked ids → ∀ d', ∀ r ∈ (w.phase d').held, r.id ∉ ids

def PublishedOnce (w : World) : Prop := (publishedIds w).Nodup

/-- Dispatchers hold different rows, none of those still to be published has been
published, and a published row is sent or about to be marked. -/
structure Once (w : World) : Prop where
  once : PublishedOnce w
  apart : ∀ d d', d ≠ d' → ∀ r ∈ (w.phase d).held, ∀ r' ∈ (w.phase d').held, r.id ≠ r'.id
  distinct : ∀ d, ((w.phase d).held.map Row.id).Nodup
  unpublished : ∀ d, ∀ r ∈ (w.phase d).unpublished, r.id ∉ publishedIds w
  settled : ∀ id ∈ publishedIds w, Sent w.table id ∨
    ∃ d row rest full, w.phase d = .marking row rest full ∧ row.id = id

theorem once_new : Once {} := by
  constructor <;> simp [PublishedOnce, publishedIds, World.phase, Phase.held, Phase.unpublished]

variable {w : World}

theorem Once.withTable (h : Once w) {table : List Stored}
    (sent : ∀ id, Sent w.table id → Sent table id) : Once { w with table } := by
  refine ⟨h.once, h.apart, h.distinct, h.unpublished, fun id hid => ?_⟩
  exact (h.settled id hid).imp_left (sent id)

theorem Once.setLocal (h : Once w) {d : Nat} {l : Local}
    (apart : ∀ d', d' ≠ d → ∀ r ∈ l.phase.held, ∀ r' ∈ (w.phase d').held, r.id ≠ r'.id)
    (distinct : (l.phase.held.map Row.id).Nodup)
    (unpublished : ∀ r ∈ l.phase.unpublished, r.id ∉ publishedIds w)
    (settled : ∀ row rest full, w.phase d = .marking row rest full → Sent w.table row.id ∨
      ∃ rest' full', l.phase = .marking row rest' full') : Once (w.setLocal d l) := by
  constructor
  · exact h.once
  · intro d₁
    apply forall_setLocal_phase w fun d₂ p => d₁ ≠ d₂ →
      ∀ r ∈ ((w.setLocal d l).phase d₁).held, ∀ r' ∈ p.held, r.id ≠ r'.id
    · intro hne r hr r' hr'
      rw [setLocal_phase_of_ne _ _ hne] at hr
      exact (apart d₁ hne r' hr' r hr).symm
    · intro d₂ other hne
      revert d₁
      apply forall_setLocal_phase w fun d₁ p => d₁ ≠ d₂ →
        ∀ r ∈ p.held, ∀ r' ∈ (w.phase d₂).held, r.id ≠ r'.id
      · exact fun _ => apart d₂ other
      · exact fun d₁ _ => h.apart d₁ d₂
  · apply forall_setLocal_phase w fun _ p => (p.held.map Row.id).Nodup
    · exact distinct
    · exact fun d' _ => h.distinct d'
  · apply forall_setLocal_phase w fun _ p => ∀ r ∈ p.unpublished, r.id ∉ publishedIds w
    · exact unpublished
    · exact fun d' _ => h.unpublished d'
  · intro id hid
    rcases h.settled id hid with hsent | ⟨d', row, rest, full, hphase, rfl⟩
    · exact .inl hsent
    by_cases same : d' = d
    · subst same
      rcases settled row rest full hphase with hsent | ⟨rest', full', hphase'⟩
      · exact .inl hsent
      · exact .inr ⟨d', row, rest', full', by rw [setLocal_phase_self, hphase'], rfl⟩
    · exact .inr ⟨d', row, rest, full, by rw [setLocal_phase_of_ne _ _ same, hphase], rfl⟩

theorem Once.fetch (recorded : Recorded w) (h : Once w) {ds : Nat → Dispatcher} {d : Nat}
    {locked ids : List Nat} (hphase : w.phase d = .fetching)
    (claims : Claims (ds d).batch locked ids w.table)
    (exclusive : ∀ d', ∀ r ∈ (w.phase d').held, r.id ∉ ids) :
    Once ({ w with table := bump ids w.table }.setPhase d
      (.afterFetch (ds d) (.ok (rowsOf ids (bump ids w.table))))) := by
  have keyed := (List.nodup_append.mp recorded.keyed).1
  have bumped : Once { w with table := bump ids w.table } := h.withTable fun id hs => hs.bump ids
  apply bumped.setLocal
  · intro d' _ r hr r' hr' same
    rw [held_afterFetch] at hr
    apply exclusive d' r' hr'
    rw [← same]
    exact (mem_rowsOf hr).1
  · rw [held_afterFetch, claims.rowIds]
    exact claims.2.1
  · intro r hr published
    rw [unpublished_afterFetch] at hr
    have claimed := (mem_rowsOf hr).1
    rcases h.settled r.id published with hsent | ⟨d', row, rest, full, hmarking, same⟩
    · exact claims.not_sent keyed claimed hsent
    · apply exclusive d' row
      · simp [hmarking, Phase.held]
      · rw [same]
        exact claimed
  · intro row rest full hmarking
    have marking : w.phase d = .marking row rest full := hmarking
    rw [hphase] at marking
    cases marking

theorem Once.publish (h : Once w) {d : Nat} {row : Row} {rest : List Row} {full : Bool}
    (hphase : w.phase d = .publishing row rest full) :
    Once ((w.record d row).setPhase d (.marking row rest full)) := by
  have fresh : row.id ∉ publishedIds w := by
    apply h.unpublished d
    simp [hphase, Phase.unpublished]
  have mine : ∀ r ∈ rest, r.id ≠ row.id := by
    have distinct := h.distinct d
    simp only [hphase, Phase.held, List.map_cons, List.nodup_cons, List.mem_map] at distinct
    exact fun r hr same => distinct.1 ⟨r, hr, same⟩
  have rowHeld : row ∈ (w.phase d).held := by simp [hphase, Phase.held]
  have ids : publishedIds ((w.record d row).setPhase d (.marking row rest full)) =
      publishedIds w ++ [row.id] := List.map_append
  have held : ∀ d', (((w.record d row).setPhase d (.marking row rest full)).phase d').held =
      (w.phase d').held := by
    apply forall_setLocal_phase (w.record d row) fun d' p => p.held = (w.phase d').held
    · rw [hphase]
      rfl
    · exact fun _ _ => rfl
  constructor
  · rw [PublishedOnce, ids]
    apply h.once.append (List.nodup_singleton _)
    rw [List.disjoint_singleton]
    exact fresh
  · intro d₁ d₂ hne r hr r' hr'
    rw [held] at hr hr'
    exact h.apart d₁ d₂ hne r hr r' hr'
  · intro d'
    rw [held]
    exact h.distinct d'
  · intro d' r hr
    rw [ids, List.mem_append, List.mem_singleton, not_or]
    by_cases same : d' = d
    · subst same
      rw [setPhase_phase_self] at hr
      refine ⟨?_, mine r hr⟩
      apply h.unpublished d'
      rw [hphase]
      exact List.mem_cons_of_mem row hr
    · rw [setPhase_phase_of_ne _ _ same] at hr
      exact ⟨h.unpublished d' r hr, h.apart d' d same r (mem_held hr) row rowHeld⟩
  · intro id hid
    rw [ids, List.mem_append, List.mem_singleton] at hid
    rcases hid with hid | rfl
    · rcases h.settled id hid with hsent | ⟨d', row', rest', full', hmarking, same⟩
      · exact .inl hsent
      · have other : d' ≠ d := by
          rintro rfl
          rw [hphase] at hmarking
          cases hmarking
        refine .inr ⟨d', row', rest', full', ?_, same⟩
        rw [setPhase_phase_of_ne _ _ other]
        exact hmarking
    · exact .inr ⟨d, row, rest, full, setPhase_phase_self _ _ _, rfl⟩

theorem Once.mark (delivered : Delivered w) (h : Once w) {d : Nat} {row : Row} {rest : List Row}
    {full : Bool} (hphase : w.phase d = .marking row rest full) (now : Int) :
    Once ({ w with table := stamp row.id now w.table }.setPhase d (.next full rest)) := by
  have stamped : Once { w with table := stamp row.id now w.table } :=
    h.withTable fun id hs => hs.stamp row.id now
  have mine : ∀ r ∈ rest, r ∈ (w.phase d).held := fun r hr => by simp [hphase, Phase.held, hr]
  apply stamped.setLocal
  · intro d' hne r hr
    rw [held_next] at hr
    exact h.apart d d' hne.symm r (mine r hr)
  · rw [held_next]
    have distinct := h.distinct d
    rw [hphase] at distinct
    exact (List.nodup_cons.mp distinct).2
  · intro r hr
    rw [unpublished_next] at hr
    apply h.unpublished d
    rw [hphase]
    exact hr
  · intro row' rest' full' hmarking
    have marking : w.phase d = .marking row' rest' full' := hmarking
    rw [hphase] at marking
    cases marking
    left
    apply sent_stamp
    rw [idsOf_eq, List.mem_map]
    exact ⟨untried row, delivered.stored d row (by simp [hphase, Phase.held]), rfl⟩

theorem Once.step {ds : Nat → Dispatcher} {w w' : World} {e : Event} (recorded : Recorded w)
    (delivered : Delivered w) (h : Once w) (t : Transition ds w e w') (smooth : Smooth e)
    (exclusive : Exclusive w e) : Once w' := by
  cases t with
  | insert | rollback => exact ⟨h.once, h.apart, h.distinct, h.unpublished, h.settled⟩
  | commit tx =>
    refine ⟨h.once, h.apart, h.distinct, h.unpublished, fun id hid => ?_⟩
    exact (h.settled id hid).imp_left fun hs => hs.append _
  | kick d =>
    apply h.setLocal
    · exact fun d' hne => h.apart d d' hne.symm
    · exact h.distinct d
    · exact h.unpublished d
    · exact fun row rest full hphase => .inr ⟨rest, full, hphase⟩
  | wake d byKick failed hphase =>
    apply h.setLocal
    · simp [Phase.held]
    · simp [Phase.held]
    · simp [Phase.unpublished]
    · simp [hphase]
  | fetch d locked ids hphase claims =>
    exact h.fetch recorded hphase claims (exclusive d locked ids rfl)
  | publish d row rest full hphase => exact h.publish hphase
  | mark d now row rest full hphase => exact h.mark delivered hphase now
  | fetchFails | publishFails | markFails | crash => exact smooth.elim

/-- In a run without failures in which no fetch returns a row that a dispatcher
has fetched and not yet marked, every row is published at most once. -/
theorem published_once_of_exclusive (ds : Nat → Dispatcher) {events : List Event}
    (h : Along (step ds) (fun w e _ => Smooth e ∧ Exclusive w e) {} events) :
    Always (step ds) PublishedOnce {} events := by
  refine ⟨once_new.once, ?_⟩
  refine Along.of_invariant (fun w => Recorded w ∧ Delivered w ∧ Once w) ?_
    ⟨recorded_new, delivered_new, once_new⟩ h
  rintro w e w' hstep ⟨recorded, delivered, once⟩ ⟨smooth, exclusive⟩
  have t := step_transition hstep
  have once' := once.step recorded delivered t smooth exclusive
  exact ⟨⟨recorded.step t, delivered.step recorded t, once'⟩, once'.once⟩

instance (w : World) : Decidable (PublishedOnce w) :=
  inferInstanceAs (Decidable (List.Nodup _))

def grant : Row := ⟨1, [], [], [], 10, 0⟩

def soleRun : List Event :=
  [.insert 0 grant, .commit 0, .wake 0 false, .fetch 0 [] [1], .publish 0, .mark 0 20]

theorem published_once_of_exclusive_sole :
    Always (step fun _ => {}) PublishedOnce {} soleRun := by
  apply published_once_of_exclusive
  have other : ∀ w e, (∀ d locked ids, e ≠ .fetch d locked ids) → Exclusive w e :=
    fun w e hne d locked ids he => absurd he (hne d locked ids)
  refine ⟨⟨trivial, other _ _ (by simp)⟩, ⟨trivial, other _ _ (by simp)⟩,
    ⟨trivial, other _ _ (by simp)⟩, ⟨trivial, ?_⟩, ⟨trivial, other _ _ (by simp)⟩,
    ⟨trivial, other _ _ (by simp)⟩, trivial⟩
  intro d locked ids he d' r hr
  cases d' with
  | zero => cases hr
  | succ n => cases hr

def doubleRun : List Event :=
  [.insert 0 grant, .commit 0, .wake 0 false, .wake 1 false, .fetch 0 [] [1], .fetch 1 [] [1],
    .publish 0, .mark 0 20, .publish 1]

theorem row_published_twice :
    (∀ e ∈ doubleRun, Smooth e) ∧ ¬Always (step fun _ => {}) PublishedOnce {} doubleRun := by
  refine ⟨by simp [doubleRun, Smooth], ?_⟩
  decide

end DxCommonGo.OutboxDuplicates
