import DxCommonGo.ConsumerRuns

/-! What a runner guarantees over a sequence of deliveries: each is settled once, the requeues of an
id are bounded, and an id that was acked is kept from the handler for a time. -/

namespace DxCommonGo.ConsumerDiscipline
open GoStrings Programs RabbitConsumer ConsumerRuns

variable {ω : Type}

def Retains (r : ConsumerRunner) (id : GoString) : Prop := ∃ dedup ∈ r.dedup, id ∈ dedup.set

theorem not_retains_of_invoked (r : ConsumerRunner) (d : Delivery) (outcome : Outcome)
    (h : (settle r d outcome).1 ≠ .duplicate) (nonempty : d.messageId ≠ []) :
    ¬Retains r d.messageId := by
  rintro ⟨dedup, hdedup, retained⟩
  apply h
  have seen : dedup.seen d.messageId = true := by simp [Dedup.seen, nonempty, retained]
  unfold settle
  rw [if_pos]
  simp [Option.mem_def.mp hdedup, seen]

section Retention

variable {r : ConsumerRunner} {dedup : Dedup} (d : Delivery) (outcome : Outcome)

theorem forgetAttempts_dedup (r : ConsumerRunner) (id : GoString) :
    (r.forgetAttempts id).dedup = r.dedup := by
  unfold ConsumerRunner.forgetAttempts
  split_ifs <;> rfl

theorem capped_dedup (r : ConsumerRunner) (id : GoString) :
    (r.capped id outcome).2.dedup = r.dedup := by
  unfold ConsumerRunner.capped ConsumerRunner.attemptExceeded
  split_ifs <;> rfl

theorem settleBy_dedup (r : ConsumerRunner) :
    (settleBy r d outcome).2.dedup = if (settleBy r d outcome).1 = .acked then
      r.dedup.map fun dedup => dedup.mark d.messageId else r.dedup := by
  cases outcome with
  | ack => exact forgetAttempts_dedup _ _
  | requeue => rfl
  | deadLetter => exact forgetAttempts_dedup _ _

theorem settle_dedup (r : ConsumerRunner) :
    (settle r d outcome).2.dedup = if (settle r d outcome).1 = .acked then
      r.dedup.map fun dedup => dedup.mark d.messageId else r.dedup := by
  by_cases duplicate : (r.dedup.any fun dedup => dedup.seen d.messageId) = true
  · simp [settle, duplicate]
  · simp only [settle, if_neg duplicate]
    rw [settleBy_dedup, capped_dedup]

theorem since_settle (hdedup : r.dedup = some dedup) (nonempty : d.messageId ≠ [])
    (h : (settle r d outcome).1 = .acked) :
    (settle r d outcome).2.dedup = some (dedup.mark d.messageId) ∧
      RecentSet.Since d.messageId [] (dedup.mark d.messageId).order := by
  have fresh : d.messageId ∉ dedup.order := by
    rw [← dedup.agree]
    intro retained
    apply not_retains_of_invoked r d outcome (by rw [h]; decide) nonempty
    exact ⟨dedup, hdedup, retained⟩
  rw [settle_dedup, h, hdedup, dedup.mark_order nonempty]
  exact ⟨rfl, RecentSet.since_push fresh⟩

theorem settles_retains {r' : ConsumerRunner} {records : List Record} (h : Settles r records r')
    {id : GoString} (hdedup : r.dedup = some dedup) {since : List GoString}
    (hsince : RecentSet.Since id since dedup.order)
    (few : ((since ++ ackedIds records).toFinset.erase id).card < dedup.cap) : Retains r' id := by
  induction h generalizing dedup since with
  | nil r => exact ⟨dedup, hdedup, (dedup.agree id).mpr hsince.mem⟩
  | @cons r d outcome rest r' next ih =>
    have after := settle_dedup d outcome r
    rw [ackedIds_cons] at few
    by_cases marked : (settle r d outcome).1 = .acked ∧ d.messageId ≠ []
    · rw [if_pos marked] at few
      rw [if_pos marked.1, hdedup] at after
      have reordered : ((d.messageId :: since) ++ ackedIds rest).toFinset.erase id =
          (since ++ ([d.messageId] ++ ackedIds rest)).toFinset.erase id := by
        congr 1
        ext x
        simp only [List.mem_toFinset, List.mem_append, List.mem_cons, List.not_mem_nil]
        tauto
      rw [← reordered] at few
      have sooner : ((d.messageId :: since).toFinset.erase id).card < dedup.cap := by
        refine lt_of_le_of_lt (Finset.card_le_card (Finset.erase_subset_erase id ?_)) few
        exact fun x hx => List.mem_toFinset.mpr
          (List.mem_append_left _ (List.mem_toFinset.mp hx))
      have pushed := hsince.push dedup.nodup sooner
      rw [← dedup.mark_order marked.2] at pushed
      exact ih after pushed (by rw [Dedup.mark_cap]; exact few)
    · rw [if_neg marked, List.nil_append] at few
      have unchanged : (settle r d outcome).2.dedup = some dedup := by
        rw [after, hdedup]
        split_ifs with acked
        · have empty : d.messageId = [] := by_contra fun ne => marked ⟨acked, ne⟩
          simp [Dedup.mark, empty]
        · rfl
      exact ih unchanged hsince few

end Retention

structure Disciplined (r : ConsumerRunner) (ds : List Delivery) (records : List Record) : Prop where
  all : records.map Record.delivery = ds
  settled : ∀ x ∈ records, x.ops.filterMap settles? = [x.delivery]
  /-- Between terminal settlements of an id it is requeued fewer times than the cap. -/
  bounded : 1 ≤ r.maxAttempts → ∀ id, id ≠ [] → ∀ before between after,
    records = before ++ between ++ after → (∀ x ∈ between, x.terminal id = false) →
    ((between.filter fun x => x.requeued id).length : Int) ≤ r.maxAttempts - 1
  deduplicated : ∀ x ∈ records, x.delivery.messageId ≠ [] →
    Retains x.before x.delivery.messageId → x.invoked = false
  /-- An id the handler has acked is in the set until as many others have been
  acked as the set can hold. -/
  retained : ∀ before x between y after, records = before ++ x :: (between ++ y :: after) →
    x.ackedByHandler = true → x.delivery.messageId ≠ [] → ∀ dedup ∈ x.before.dedup,
    ((ackedIds between).toFinset.erase x.delivery.messageId).card < dedup.cap →
    Retains y.before x.delivery.messageId

/-- A runner settles every delivery once, bounds the requeues of an id, and keeps
processed ids from the handler, whatever the handler returns. -/
theorem runner_disciplined (h : Handler Op Reply ω) (r : ConsumerRunner) (w : ω)
    (ds : List Delivery) : Disciplined r ds (handled h r w ds) := by
  obtain ⟨all, r', settles⟩ := handled_settles h r w ds
  refine ⟨all, ?_, ?_, ?_, ?_⟩
  · exact settles.forall_mem fun r d outcome => settles_ops d _
  · intro capped id nonempty before between after split terminal
    rw [split, List.append_assoc] at settles
    obtain ⟨s, first, second⟩ := settles.append
    obtain ⟨t, middle, -⟩ := second.append
    rw [← first.maxAttempts] at capped ⊢
    exact middle.requeues_lt capped nonempty terminal
  · refine settles.forall_mem fun r d outcome nonempty retained => ?_
    rw [invoked_ops, decide_eq_false_iff_not, not_not]
    by_contra invoked
    exact not_retains_of_invoked r d outcome invoked nonempty retained
  · intro before x between y after split acked nonempty dedup hdedup few
    rw [split] at settles
    obtain ⟨s, -, second⟩ := settles.append
    cases second with
    | cons _ d outcome next =>
      rw [ackedByHandler_ops, decide_eq_true_eq] at acked
      obtain ⟨marked, since⟩ := since_settle d outcome hdedup nonempty acked
      obtain ⟨t, middle, third⟩ := next.append
      cases third with
      | cons _ d' outcome' next' =>
        exact settles_retains middle marked since (by rw [Dedup.mark_cap]; exact few)

end DxCommonGo.ConsumerDiscipline
