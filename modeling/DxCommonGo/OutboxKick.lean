import DxCommonGo.OutboxWorld

/-! No kick is lost: one that finds none pending leaves one in the channel, and a drain only ends
without an error after a fetch that left no unsent row behind. -/

namespace DxCommonGo.OutboxKick
open Runs Outbox Outbox.Phase OutboxTable OutboxWorld

/-- The fetches of the dispatcher meet no locked row: inserts lock none that is committed, so only
another dispatcher would. -/
def Unlocked (d : Nat) (e : Event) : Prop := ∀ locked ids, e = .fetch d locked ids → locked = []

/-- With `Run` blocked in its select, no kick pending and the last drain ended
without an error, every row committed before some kick is sent. -/
def KicksServed (d : Nat) (w : World) : Prop :=
  w.phase d = .idle false → (w.locals d).kick = false → ∀ id ∈ (w.locals d).kicked, Sent w.table id

/-- The rows committed before a kick are in the table, and unless a kick is pending or a fetch to
come they are sent or in hand. -/
structure Covered (d : Nat) (w : World) : Prop where
  known : ∀ id ∈ (w.locals d).kicked, id ∈ idsOf w.table
  covered : (w.locals d).kick = false → (w.phase d).isLast = true →
    ∀ id ∈ (w.locals d).kicked, Sent w.table id ∨ id ∈ (w.phase d).held.map Row.id

theorem covered_new (d : Nat) : Covered d {} := by
  constructor <;> simp

variable {d : Nat} {w : World}

theorem Covered.served (h : Covered d w) : KicksServed d w := by
  intro hphase hkick id hid
  have covered := h.covered hkick (by rw [hphase]; rfl) id hid
  rw [hphase] at covered
  exact covered.resolve_right List.not_mem_nil

theorem Covered.withTable {w' : World} (h : Covered d w) (locals : w'.locals d = w.locals d)
    (ids : ∀ id ∈ idsOf w.table, id ∈ idsOf w'.table)
    (sent : ∀ id, Sent w.table id → Sent w'.table id) : Covered d w' := by
  have phase : w'.phase d = w.phase d := congrArg Local.phase locals
  constructor
  · rw [locals]
    exact fun id hid => ids id (h.known id hid)
  · rw [locals, phase]
    exact fun hkick hlast id hid => (h.covered hkick hlast id hid).imp_left (sent id)

theorem covered_setLocal {l : Local} (known : ∀ id ∈ l.kicked, id ∈ idsOf w.table)
    (covered : l.kick = false → l.phase.isLast = true →
      ∀ id ∈ l.kicked, Sent w.table id ∨ id ∈ l.phase.held.map Row.id) :
    Covered d (w.setLocal d l) := by
  constructor
  · rw [setLocal_locals_self]
    exact known
  · rw [setLocal_locals_self, setLocal_phase_self]
    exact covered

theorem covered_unsettled {l : Local} (known : ∀ id ∈ l.kicked, id ∈ idsOf w.table)
    (h : l.kick = true ∨ l.phase.isLast = false) : Covered d (w.setLocal d l) := by
  apply covered_setLocal known
  intro hkick hlast
  simp [hkick, hlast] at h

theorem Covered.other {d' : Nat} (hne : d' ≠ d) {w' : World} (h : Covered d w) (l : Local)
    (locals : w'.locals = w.locals) (ids : idsOf w'.table = idsOf w.table)
    (sent : ∀ id, Sent w.table id → Sent w'.table id) : Covered d (w'.setLocal d' l) := by
  apply h.withTable
  · rw [setLocal_locals_of_ne _ _ hne.symm, locals]
  · intro id hid
    exact ids ▸ hid
  · exact sent

theorem Covered.failed (h : Covered d w) (d' : Nat) {table : List Stored}
    (ids : idsOf table = idsOf w.table) (sent : ∀ id, Sent w.table id → Sent table id) :
    Covered d ({ w with table }.setPhase d' (.idle true)) := by
  by_cases same : d' = d
  · subst same
    apply covered_unsettled
    · intro id hid
      exact ids ▸ h.known id hid
    · exact .inr rfl
  · exact h.other same _ rfl ids sent

theorem Covered.fetch (h : Covered d w) {ds : Nat → Dispatcher} (hbatch : 1 ≤ (ds d).batch)
    {ids : List Nat} (claims : Claims (ds d).batch [] ids w.table) :
    Covered d ({ w with table := bump ids w.table }.setPhase d
      (.afterFetch (ds d) (.ok (rowsOf ids (bump ids w.table))))) := by
  apply covered_setLocal
  · intro id hid
    rw [idsOf_bump]
    exact h.known id hid
  · intro _ hlast id hid
    rw [held_afterFetch, claims.rowIds]
    have short := isLast_afterFetch hbatch hlast
    have length : (rowsOf ids (bump ids w.table)).length = ids.length := by
      simpa using congrArg List.length claims.rowIds
    have total := claims.2.2.2.1
    obtain ⟨s, hs, rfl⟩ := List.mem_map.mp (h.known id hid)
    by_cases hsent : s.sentAt = none
    · right
      apply claims.all _ (mem_unsent.mpr ⟨hs, hsent, List.not_mem_nil⟩)
      omega
    · left
      exact Sent.bump ⟨s, hs, rfl, hsent⟩ ids

theorem Covered.publish (h : Covered d w) {row : Row} {rest : List Row} {full : Bool}
    (hphase : w.phase d = .publishing row rest full) :
    Covered d ((w.record d row).setPhase d (.marking row rest full)) := by
  have covered := h.covered
  rw [hphase] at covered
  exact covered_setLocal h.known covered

theorem Covered.mark (h : Covered d w) {row : Row} {rest : List Row} {full : Bool}
    (hphase : w.phase d = .marking row rest full) (now : Int) :
    Covered d ({ w with table := stamp row.id now w.table }.setPhase d (.next full rest)) := by
  have covered := h.covered
  rw [hphase] at covered
  apply covered_setLocal
  · intro id hid
    rw [idsOf_stamp]
    exact h.known id hid
  · intro hkick hlast id hid
    rw [isLast_next] at hlast
    rw [held_next]
    have before := covered hkick hlast id hid
    simp only [Phase.held, List.map_cons, List.mem_cons] at before
    rcases before with hsent | rfl | hrest
    · exact .inl (hsent.stamp row.id now)
    · exact .inl (sent_stamp (h.known _ hid) now)
    · exact .inr hrest

theorem Covered.step {ds : Nat → Dispatcher} {d : Nat} (hbatch : 1 ≤ (ds d).batch)
    {w w' : World} {e : Event} (h : Covered d w) (t : Transition ds w e w')
    (unlocked : Unlocked d e) : Covered d w' := by
  cases t with
  | insert | rollback => exact h.withTable rfl (fun _ hid => hid) fun _ hs => hs
  | commit tx =>
    refine h.withTable rfl (fun id hid => ?_) fun _ hs => hs.append _
    simp only [idsOf, List.map_append, List.mem_append]
    exact .inl hid
  | kick d' =>
    by_cases same : d' = d
    · subst same
      apply covered_unsettled
      · intro id hid
        exact (List.mem_append.mp hid).elim (h.known id) fun hid => hid
      · exact .inl rfl
    · exact h.other same _ rfl rfl fun _ hs => hs
  | wake d' | crash d' =>
    by_cases same : d' = d
    · subst same
      exact covered_unsettled h.known (.inr rfl)
    · exact h.other same _ rfl rfl fun _ hs => hs
  | fetch d' locked ids hphase claims =>
    by_cases same : d' = d
    · subst same
      rw [unlocked locked ids rfl] at claims
      exact h.fetch hbatch claims
    · exact h.other same _ rfl (idsOf_bump ids w.table) fun _ hs => hs.bump ids
  | fetchFails d' err locked ids =>
    exact h.failed d' (idsOf_bump ids w.table) fun _ hs => hs.bump ids
  | publish d' row rest full hphase =>
    by_cases same : d' = d
    · subst same
      exact h.publish hphase
    · exact h.other same _ rfl rfl fun _ hs => hs
  | publishFails d' => exact h.failed d' rfl fun _ hs => hs
  | mark d' now row rest full hphase =>
    by_cases same : d' = d
    · subst same
      exact h.mark hphase now
    · exact h.other same _ rfl (idsOf_stamp row.id now w.table) fun _ hs => hs.stamp row.id now
  | markFails d' err applied row =>
    cases applied with
    | none => exact h.failed d' rfl fun _ hs => hs
    | some now => exact h.failed d' (idsOf_stamp row.id now w.table) fun _ hs => hs.stamp row.id now

/-- In every run no kick of a dispatcher is lost, whatever other dispatchers do,
as long as its fetches meet no locked row. -/
theorem kick_never_lost (ds : Nat → Dispatcher) (d : Nat) (hbatch : 1 ≤ (ds d).batch)
    {events : List Event} (h : Along (step ds) (fun _ e _ => Unlocked d e) {} events) :
    Always (step ds) (KicksServed d) {} events := by
  refine ⟨(covered_new d).served, ?_⟩
  refine Along.of_invariant (Covered d) ?_ (covered_new d) h
  intro w e w' hstep covered unlocked
  have covered' := covered.step hbatch (step_transition hstep) unlocked
  exact ⟨covered', covered'.served⟩

def revoke : Row := ⟨1, [], [], [], 10, 0⟩

def kickRun : List Event :=
  [.insert 0 revoke, .commit 0, .kick 0, .wake 0 true, .fetch 0 [] [1],
    .insert 1 { revoke with id := 2 }, .commit 1, .kick 0, .publish 0, .mark 0 20,
    .wake 0 true, .fetch 0 [] [2], .publish 0, .mark 0 30]

theorem kick_never_lost_second : Always (step fun _ => {}) (KicksServed 0) {} kickRun := by
  apply kick_never_lost (fun _ => {}) 0 (by decide)
  apply along_of_inputs
  intro e he locked ids same
  subst same
  simp only [kickRun, List.mem_cons, List.not_mem_nil, reduceCtorEq, Event.fetch.injEq,
    false_or, or_false, true_and] at he
  rcases he with ⟨rfl, -⟩ | ⟨rfl, -⟩ <;> rfl

end DxCommonGo.OutboxKick
