import DxCommonGo.DxErrors
import DxCommonGo.GoMaps
import DxCommonGo.Programs
import DxCommonGo.RecentSet

/-! `ConsumerRunner` of package `rabbitmq`: a delivery is settled by what the handler returns, a cap
on the attempts of its message id, and a set of processed ids. Handler and acknowledgements are
calls to the environment. -/

namespace DxCommonGo.RabbitConsumer
open GoStrings GoMaps DxErrors Programs

inductive Outcome where
  | ack | requeue | deadLetter
  deriving DecidableEq

structure Delivery where
  messageId : GoString
  redelivered : Bool := false
  deriving DecidableEq

structure Dedup where
  cap : Nat
  order : List GoString
  set : GoMap Unit
  pos : 0 < cap
  nodup : order.Nodup
  agree : ∀ id, id ∈ set ↔ id ∈ order

namespace Dedup

def newDedup (capacity : Int) : Dedup where
  cap := if capacity ≤ 0 then 1024 else capacity.toNat
  order := []
  set := ∅
  pos := by
    split_ifs with h
    · decide
    · omega
  nodup := List.nodup_nil
  agree id := by simp

def seen (d : Dedup) (id : GoString) : Bool := if id = [] then false else decide (id ∈ d.set)

def evictOldest (d : Dedup) : Dedup where
  cap := d.cap
  order := d.order.tail
  set := d.order.head?.elim d.set fun oldest => d.set.erase oldest
  pos := d.pos
  nodup := d.nodup.tail
  agree id := by
    have agree := d.agree id
    have nodup := d.nodup
    cases horder : d.order with
    | nil => simpa [horder] using agree
    | cons oldest rest =>
      rw [horder, List.nodup_cons] at nodup
      rw [horder, List.mem_cons] at agree
      simp only [List.head?_cons, Option.elim_some, AList.mem_erase, List.tail_cons, agree]
      constructor
      · exact fun h => h.2.resolve_left h.1
      · intro h
        refine ⟨?_, .inr h⟩
        rintro rfl
        exact nodup.1 h

def append (d : Dedup) (id : GoString) (fresh : id ∉ d.set) : Dedup where
  cap := d.cap
  order := d.order ++ [id]
  set := d.set.insert id ()
  pos := d.pos
  nodup := by
    apply d.nodup.append (List.nodup_singleton id)
    rw [List.disjoint_singleton, ← d.agree]
    exact fresh
  agree id' := by
    rw [AList.mem_insert, List.mem_append, List.mem_singleton, d.agree, or_comm]

def makeRoom (d : Dedup) : Dedup := if d.cap ≤ d.order.length then d.evictOldest else d

theorem makeRoom_order (d : Dedup) : d.makeRoom.order = RecentSet.evict d.cap d.order := by
  unfold makeRoom RecentSet.evict
  split_ifs <;> rfl

theorem not_mem_makeRoom {d : Dedup} {id : GoString} (h : id ∉ d.set) : id ∉ d.makeRoom.set := by
  rw [agree] at h ⊢
  rw [makeRoom_order]
  exact fun hid => h ((RecentSet.evict_sublist d.cap d.order).mem hid)

def mark (d : Dedup) (id : GoString) : Dedup :=
  if id = [] then d
  else if h : id ∈ d.set then d
  else d.makeRoom.append id (not_mem_makeRoom h)

@[simp] theorem mark_cap (d : Dedup) (id : GoString) : (d.mark id).cap = d.cap := by
  unfold mark makeRoom
  split_ifs <;> rfl

theorem mark_order (d : Dedup) {id : GoString} (nonempty : id ≠ []) :
    (d.mark id).order = RecentSet.push d.cap d.order id := by
  unfold mark RecentSet.push
  rw [if_neg nonempty]
  by_cases present : id ∈ d.set
  · rw [dif_pos present, if_pos ((d.agree id).mp present)]
  · rw [dif_neg present, if_neg fun h => present ((d.agree id).mpr h), ← makeRoom_order]
    rfl

theorem seen_iff (d : Dedup) (id : GoString) : d.seen id = true ↔ id ≠ [] ∧ id ∈ d.order := by
  rw [seen, ← d.agree]
  split_ifs with empty <;> simp [empty]

inductive Call where
  | mark (id : GoString)
  | seen (id : GoString)

/-- A Dedup, and the ids that were marked with effect, in order: those not empty and not retained at
that moment. -/
structure Marked where
  dedup : Dedup
  log : List GoString

def Marked.call (m : Marked) : Call → Marked
  | .mark id =>
    ⟨m.dedup.mark id, if id = [] ∨ id ∈ m.dedup.set then m.log else m.log ++ [id]⟩
  | .seen _ => m

structure Marked.Windowed (m : Marked) : Prop where
  recent : m.dedup.order = m.log.rtake m.dedup.cap
  named : [] ∉ m.log

theorem Marked.Windowed.call {m : Marked} (h : m.Windowed) (c : Call) : (m.call c).Windowed := by
  cases c with
  | seen id => exact h
  | mark id =>
    rw [Marked.call]
    by_cases idle : id = [] ∨ id ∈ m.dedup.set
    · have kept : m.dedup.mark id = m.dedup := by
        rcases idle with rfl | retained <;> simp [mark, *]
      rw [kept, if_pos idle]
      exact h
    · rw [if_neg idle]
      rw [m.dedup.agree, h.recent, not_or] at idle
      refine ⟨?_, by simpa [h.named] using Ne.symm idle.1⟩
      rw [mark_cap, mark_order _ idle.1, h.recent]
      exact RecentSet.push_rtake m.dedup.pos idle.2

theorem Marked.calls {m : Marked} (h : m.Windowed) (cs : List Call) :
    (cs.foldl Marked.call m).Windowed ∧ (cs.foldl Marked.call m).dedup.cap = m.dedup.cap := by
  induction cs generalizing m with
  | nil => exact ⟨h, rfl⟩
  | cons c cs ih =>
    obtain ⟨windowed, same⟩ := ih (h.call c)
    refine ⟨windowed, same.trans ?_⟩
    cases c with
    | mark id => exact mark_cap m.dedup id
    | seen id => rfl

/-- After any calls the list and the set agree and keep within the capacity, and an id is seen
until as many others have been marked with effect as the capacity allows. -/
theorem calls_window (capacity : Int) (cs : List Call) :
    let c := (newDedup capacity).cap
    let m := cs.foldl Marked.call ⟨newDedup capacity, []⟩
    m.dedup.order.Nodup ∧ (∀ id, id ∈ m.dedup.set ↔ id ∈ m.dedup.order) ∧
      m.dedup.order.length ≤ c ∧
      (∀ id, m.dedup.seen id = true ↔ id ≠ [] ∧ id ∈ m.log.rtake c) ∧
      ∀ older id newer, m.log = older ++ id :: newer → id ∉ newer →
        (m.dedup.seen id = false ↔ c ≤ newer.length) := by
  intro c m
  have start : Marked.Windowed ⟨newDedup capacity, []⟩ := ⟨by simp [newDedup], by simp⟩
  obtain ⟨windowed, same⟩ := Marked.calls start cs
  have order : m.dedup.order = m.log.rtake c := by
    rw [← show m.dedup.cap = c from same]
    exact windowed.recent
  have seen : ∀ id, m.dedup.seen id = true ↔ id ≠ [] ∧ id ∈ m.log.rtake c := by
    intro id
    rw [seen_iff, order]
  refine ⟨m.dedup.nodup, m.dedup.agree, ?_, seen, fun older id newer log last => ?_⟩
  · rw [order]
    exact RecentSet.length_rtake_le m.log c
  · have named : id ≠ [] := by
      rintro rfl
      exact windowed.named (show [] ∈ m.log by simp [log])
    rw [← Bool.not_eq_true, seen, log, RecentSet.mem_rtake_iff last]
    simp [named]

/-- The empty id is not retained when it is marked, and still pushes nothing out. -/
theorem empty_id_ignored :
    let marked := (newDedup 1).mark (str "a")
    str "a" ∉ (newDedup 1).set ∧ [] ∉ marked.set ∧ (marked.mark []).seen (str "a") = true ∧
      str "a" ∉ [str "a", []].rtake 1 := by
  decide

end Dedup

structure ConsumerRunner where
  maxAttempts : Int
  dedup : Option Dedup
  attempts : GoMap Nat

def newConsumerRunner (maxAttempts : Int) (dedup : Option Dedup) : ConsumerRunner :=
  ⟨maxAttempts, dedup, ∅⟩

inductive Op where
  | handle (d : Delivery)
  | ack (d : Delivery) (multiple : Bool)
  | nack (d : Delivery) (multiple requeue : Bool)
  deriving DecidableEq

@[reducible] def Reply : Op → Type
  | .handle _ => Outcome
  | .ack _ _ => Option GoError
  | .nack _ _ _ => Option GoError

namespace ConsumerRunner

variable (r : ConsumerRunner)

def count (id : GoString) : Nat := (r.attempts.lookup id).getD 0

def attemptExceeded (id : GoString) : Bool × ConsumerRunner :=
  if r.maxAttempts ≤ 0 ∨ id = [] then (false, r)
  else
    let r' := { r with attempts := r.attempts.insert id (r.count id + 1) }
    (decide (r.maxAttempts ≤ r'.count id), r')

def forgetAttempts (id : GoString) : ConsumerRunner :=
  if id = [] then r else { r with attempts := r.attempts.erase id }

def markProcessed (id : GoString) : ConsumerRunner :=
  { r with dedup := r.dedup.map fun dedup => dedup.mark id }

def capped (id : GoString) (outcome : Outcome) : Outcome × ConsumerRunner :=
  if outcome = .requeue then
    let (exceeded, r') := r.attemptExceeded id
    (if exceeded then .deadLetter else outcome, r')
  else (outcome, r)

def conclude (d : Delivery) (outcome : Outcome) : Prog Op Reply ConsumerRunner :=
  match outcome with
  | .ack => do
    let _ ← perform (.ack d false)
    return (r.markProcessed d.messageId).forgetAttempts d.messageId
  | .requeue => do
    let _ ← perform (.nack d false true)
    return r
  | .deadLetter => do
    let _ ← perform (.nack d false false)
    return r.forgetAttempts d.messageId

def dispatch (d : Delivery) : Prog Op Reply ConsumerRunner :=
  if r.dedup.any fun dedup => dedup.seen d.messageId then do
    let _ ← perform (.ack d false)
    return r
  else do
    let returned ← perform (.handle d)
    let (outcome, r) := r.capped d.messageId returned
    r.conclude d outcome

end ConsumerRunner

end DxCommonGo.RabbitConsumer
