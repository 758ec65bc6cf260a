import DxCommonGo.RabbitConsumer

/-! A runner over a sequence of deliveries. What `dispatch` does with one of them is `settle`, and a
run is a chain of settlements; the requeues of an id stay below the cap. -/

namespace DxCommonGo.ConsumerRuns
open GoStrings Programs RabbitConsumer

variable {ω : Type}

structure Record where
  before : ConsumerRunner
  delivery : Delivery
  ops : List Op

def handled (h : Handler Op Reply ω) : ConsumerRunner → ω → List Delivery → List Record
  | _, _, [] => []
  | r, w, d :: ds =>
    ⟨r, d, trace h (r.dispatch d) w⟩ ::
      match run h (r.dispatch d) w with
      | (.returned r', w') => handled h r' w' ds
      | _ => []

def settles? : Op → Option Delivery
  | .handle _ => none
  | .ack d _ => some d
  | .nack d _ _ => some d

namespace Record

variable (x : Record) (id : GoString)

def invoked : Bool := decide (.handle x.delivery ∈ x.ops)

def acked : Bool := decide (.ack x.delivery false ∈ x.ops)

def ackedByHandler : Bool := x.invoked && x.acked

def requeued : Bool :=
  decide (x.delivery.messageId = id) && decide (.nack x.delivery false true ∈ x.ops)

def terminal : Bool :=
  decide (x.delivery.messageId = id) &&
    (x.acked || decide (.nack x.delivery false false ∈ x.ops))

end Record

def ackedIds (records : List Record) : List GoString :=
  (records.filter fun x => x.ackedByHandler && decide (x.delivery.messageId ≠ [])).map
    fun x => x.delivery.messageId

inductive Settlement where
  | duplicate | acked | requeued | deadLettered
  deriving DecidableEq

def Settlement.ops (d : Delivery) : Settlement → List Op
  | .duplicate => [.ack d false]
  | .acked => [.handle d, .ack d false]
  | .requeued => [.handle d, .nack d false true]
  | .deadLettered => [.handle d, .nack d false false]

section Readings

variable (r : ConsumerRunner) (d : Delivery) (s : Settlement) (id : GoString)

theorem invoked_ops : (⟨r, d, s.ops d⟩ : Record).invoked = decide (s ≠ .duplicate) := by
  cases s <;> simp [Record.invoked, Settlement.ops]

theorem ackedByHandler_ops : (⟨r, d, s.ops d⟩ : Record).ackedByHandler = decide (s = .acked) := by
  cases s <;> simp [Record.ackedByHandler, Record.invoked, Record.acked, Settlement.ops]

theorem requeued_ops : (⟨r, d, s.ops d⟩ : Record).requeued id =
    (decide (d.messageId = id) && decide (s = .requeued)) := by
  cases s <;> simp [Record.requeued, Settlement.ops]

theorem terminal_ops : (⟨r, d, s.ops d⟩ : Record).terminal id =
    (decide (d.messageId = id) && decide (s ≠ .requeued)) := by
  cases s <;> simp [Record.terminal, Record.acked, Settlement.ops]

theorem ackedIds_cons (rest : List Record) : ackedIds (⟨r, d, s.ops d⟩ :: rest) =
    (if s = .acked ∧ d.messageId ≠ [] then [d.messageId] else []) ++ ackedIds rest := by
  unfold ackedIds
  rw [List.filter_cons, ackedByHandler_ops]
  split_ifs <;> simp_all

theorem settles_ops : (s.ops d).filterMap settles? = [d] := by
  cases s <;> rfl

end Readings

def settleBy (r : ConsumerRunner) (d : Delivery) : Outcome → Settlement × ConsumerRunner
  | .ack => (.acked, (r.markProcessed d.messageId).forgetAttempts d.messageId)
  | .requeue => (.requeued, r)
  | .deadLetter => (.deadLettered, r.forgetAttempts d.messageId)

def settle (r : ConsumerRunner) (d : Delivery) (outcome : Outcome) :
    Settlement × ConsumerRunner :=
  if r.dedup.any fun dedup => dedup.seen d.messageId then (.duplicate, r)
  else settleBy (r.capped d.messageId outcome).2 d (r.capped d.messageId outcome).1

theorem dispatch_settles (h : Handler Op Reply ω) (r : ConsumerRunner) (d : Delivery) (w : ω) :
    ∃ outcome w', run h (r.dispatch d) w = (.returned (settle r d outcome).2, w') ∧
      trace h (r.dispatch d) w = (settle r d outcome).1.ops d := by
  unfold ConsumerRunner.dispatch settle
  split_ifs
  · exact ⟨.ack, _, rfl, rfl⟩
  · refine ⟨(h (.handle d) w).1, ?_⟩
    have concludes : ∀ (r : ConsumerRunner) (outcome : Outcome) (w : ω),
        ∃ w', run h (r.conclude d outcome) w = (.returned (settleBy r d outcome).2, w') ∧
          .handle d :: trace h (r.conclude d outcome) w = (settleBy r d outcome).1.ops d := by
      intro r outcome w
      cases outcome <;> exact ⟨_, rfl, rfl⟩
    exact concludes _ _ _

inductive Settles : ConsumerRunner → List Record → ConsumerRunner → Prop where
  | nil (r : ConsumerRunner) : Settles r [] r
  | cons (r : ConsumerRunner) (d : Delivery) (outcome : Outcome) {rest : List Record}
      {r' : ConsumerRunner} (next : Settles (settle r d outcome).2 rest r') :
      Settles r (⟨r, d, (settle r d outcome).1.ops d⟩ :: rest) r'

theorem handled_settles (h : Handler Op Reply ω) (r : ConsumerRunner) (w : ω)
    (ds : List Delivery) : (handled h r w ds).map Record.delivery = ds ∧
      ∃ r', Settles r (handled h r w ds) r' := by
  induction ds generalizing r w with
  | nil => exact ⟨rfl, r, .nil r⟩
  | cons d ds ih =>
    obtain ⟨outcome, w', hrun, htrace⟩ := dispatch_settles h r d w
    obtain ⟨deliveries, r', settles⟩ := ih (settle r d outcome).2 w'
    simp only [handled, hrun, htrace]
    exact ⟨congrArg (d :: ·) deliveries, r', .cons r d outcome settles⟩

variable {r r' : ConsumerRunner} {records : List Record}

theorem Settles.append {xs ys : List Record} (h : Settles r (xs ++ ys) r') :
    ∃ s, Settles r xs s ∧ Settles s ys r' := by
  induction xs generalizing r with
  | nil => exact ⟨r, .nil r, h⟩
  | cons x xs ih =>
    cases h with
    | cons _ d outcome next =>
      obtain ⟨s, first, second⟩ := ih next
      exact ⟨s, .cons r d outcome first, second⟩

theorem Settles.forall_mem (h : Settles r records r') {P : Record → Prop}
    (step : ∀ r d outcome, P ⟨r, d, (settle r d outcome).1.ops d⟩) : ∀ x ∈ records, P x := by
  induction h with
  | nil r => exact fun x hx => absurd hx List.not_mem_nil
  | cons r d outcome next ih =>
    intro x hx
    rcases List.mem_cons.mp hx with rfl | hx
    · exact step r d outcome
    · exact ih x hx

section Attempts

variable (r : ConsumerRunner) (d : Delivery) (outcome : Outcome)

@[simp] theorem forgetAttempts_maxAttempts (id : GoString) :
    (r.forgetAttempts id).maxAttempts = r.maxAttempts := by
  unfold ConsumerRunner.forgetAttempts
  split_ifs <;> rfl

variable {id : GoString}

theorem count_forgetAttempts {id' : GoString} (ne : id ≠ id') :
    (r.forgetAttempts id').count id = r.count id := by
  unfold ConsumerRunner.forgetAttempts ConsumerRunner.count
  split_ifs
  · rfl
  · rw [AList.lookup_erase_ne ne]

theorem capped_maxAttempts (id : GoString) :
    (r.capped id outcome).2.maxAttempts = r.maxAttempts := by
  unfold ConsumerRunner.capped ConsumerRunner.attemptExceeded
  split_ifs <;> rfl

theorem count_capped {id' : GoString} (ne : id ≠ id') :
    (r.capped id' outcome).2.count id = r.count id := by
  unfold ConsumerRunner.capped ConsumerRunner.attemptExceeded
  split_ifs
  · rfl
  · simp [ConsumerRunner.count, AList.lookup_insert_ne ne]
  · rfl

theorem capped_requeue (capped : 1 ≤ r.maxAttempts) (nonempty : id ≠ [])
    (h : (r.capped id outcome).1 = .requeue) :
    (r.capped id outcome).2.count id = r.count id + 1 ∧
      ((r.capped id outcome).2.count id : Int) < r.maxAttempts := by
  have counted : ¬(r.maxAttempts ≤ 0 ∨ id = []) := by
    rintro (hmax | rfl)
    · omega
    · exact nonempty rfl
  unfold ConsumerRunner.capped ConsumerRunner.attemptExceeded at h ⊢
  rw [if_neg counted] at h ⊢
  split_ifs at h ⊢ with requeue
  · dsimp only at h ⊢
    split_ifs at h with exceeded
    rw [decide_eq_true_eq, not_le] at exceeded
    refine ⟨?_, exceeded⟩
    simp [ConsumerRunner.count]
  · exact absurd h requeue

theorem settleBy_maxAttempts : (settleBy r d outcome).2.maxAttempts = r.maxAttempts := by
  cases outcome with
  | ack => exact forgetAttempts_maxAttempts _ _
  | requeue => rfl
  | deadLetter => exact forgetAttempts_maxAttempts _ _

theorem settle_maxAttempts : (settle r d outcome).2.maxAttempts = r.maxAttempts := by
  unfold settle
  split_ifs
  · rfl
  · rw [settleBy_maxAttempts, capped_maxAttempts]

theorem count_settleBy (ne : id ≠ d.messageId) :
    (settleBy r d outcome).2.count id = r.count id := by
  cases outcome with
  | ack => exact count_forgetAttempts _ ne
  | requeue => rfl
  | deadLetter => exact count_forgetAttempts _ ne

theorem count_settle (ne : id ≠ d.messageId) : (settle r d outcome).2.count id = r.count id := by
  unfold settle
  split_ifs
  · rfl
  · rw [count_settleBy _ _ _ ne, count_capped _ _ ne]

theorem settleBy_requeued {r : ConsumerRunner} {d : Delivery} {outcome : Outcome}
    (h : (settleBy r d outcome).1 = .requeued) :
    outcome = .requeue ∧ (settleBy r d outcome).2 = r := by
  cases outcome with
  | ack => cases h
  | requeue => exact ⟨rfl, rfl⟩
  | deadLetter => cases h

theorem count_settle_requeued (capped : 1 ≤ r.maxAttempts) (nonempty : d.messageId ≠ [])
    (h : (settle r d outcome).1 = .requeued) :
    (settle r d outcome).2.count d.messageId = r.count d.messageId + 1 ∧
      ((settle r d outcome).2.count d.messageId : Int) < r.maxAttempts := by
  unfold settle at h ⊢
  split_ifs at h ⊢
  obtain ⟨requeue, same⟩ := settleBy_requeued h
  rw [same]
  exact capped_requeue r outcome capped nonempty requeue

end Attempts

theorem Settles.requeues (h : Settles r records r') {id : GoString} (capped : 1 ≤ r.maxAttempts)
    (nonempty : id ≠ []) (open' : ∀ x ∈ records, x.terminal id = false) :
    r.count id + (records.filter fun x => x.requeued id).length = r'.count id ∧
      (r.count id < r'.count id → (r'.count id : Int) < r.maxAttempts) := by
  induction h with
  | nil r => simp
  | cons r d outcome next ih =>
    obtain ⟨total, below⟩ := ih (by rw [settle_maxAttempts]; exact capped)
      fun x hx => open' x (List.mem_cons_of_mem _ hx)
    rw [settle_maxAttempts] at below
    have first := open' _ List.mem_cons_self
    rw [terminal_ops] at first
    rw [List.filter_cons, requeued_ops]
    by_cases same : d.messageId = id
    · subst same
      have requeued : (settle r d outcome).1 = .requeued := by simpa using first
      obtain ⟨counted, small⟩ := count_settle_requeued r d outcome capped nonempty requeued
      simp only [requeued, decide_true, Bool.and_self, if_true, List.length_cons]
      refine ⟨by omega, fun _ => ?_⟩
      rcases Nat.eq_or_lt_of_le (Nat.le.intro total) with last | later
      · rw [← last]
        exact small
      · exact below later
    · rw [count_settle r d outcome (Ne.symm same)] at total below
      simpa [same] using ⟨total, below⟩

theorem Settles.requeues_lt (h : Settles r records r') {id : GoString} (capped : 1 ≤ r.maxAttempts)
    (nonempty : id ≠ []) (open' : ∀ x ∈ records, x.terminal id = false) :
    ((records.filter fun x => x.requeued id).length : Int) ≤ r.maxAttempts - 1 := by
  obtain ⟨total, below⟩ := h.requeues capped nonempty open'
  by_cases counted : r.count id < r'.count id
  · have small := below counted
    omega
  · omega

theorem Settles.maxAttempts (h : Settles r records r') : r'.maxAttempts = r.maxAttempts := by
  induction h with
  | nil r => rfl
  | cons r d outcome next ih => rw [ih, settle_maxAttempts]

end DxCommonGo.ConsumerRuns
