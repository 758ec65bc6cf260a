import DxCommonGo.OutboxTable
import DxCommonGo.Runs

/-! The outbox with its writers and dispatchers, interleaved. Each statement is one autocommitted
step. Any call may fail, with or without its effect, and a dispatcher may crash anywhere. -/

namespace DxCommonGo.OutboxWorld
open PgxPool (Finish)
open DxErrors Outbox OutboxTable

/-- A publish that returned nil, and whether the row had been committed when the
drain that published it began. -/
structure Publication where
  dispatcher : Nat
  row : Row
  early : Bool
  deriving DecidableEq

/-- The state of a dispatcher: its phase, whether a kick is pending, the rows
committed when its drain began, and those committed before some kick. -/
structure Local where
  phase : Phase := .idle false
  kick : Bool := false
  began : List Nat := []
  kicked : List Nat := []

/-- The committed rows, the rows of open transactions, every insert ever made,
how each transaction ended, the dispatchers, and the publishes that succeeded. -/
structure World where
  table : List Stored := []
  pending : List (Nat × Row) := []
  inserted : List (Nat × Row) := []
  ended : Nat → Option Finish := fun _ => none
  locals : Nat → Local := fun _ => {}
  published : List Publication := []

inductive Event where
  | insert (tx : Nat) (row : Row)
  | commit (tx : Nat)
  | rollback (tx : Nat)
  | kick (d : Nat)
  | wake (d : Nat) (byKick : Bool)
  | fetch (d : Nat) (locked ids : List Nat)
  | fetchFails (d : Nat) (err : GoError) (locked ids : List Nat)
  | publish (d : Nat)
  | publishFails (d : Nat) (err : GoError)
  | mark (d : Nat) (now : Int)
  | markFails (d : Nat) (err : GoError) (applied : Option Int)
  | crash (d : Nat)

def World.phase (w : World) (d : Nat) : Phase := (w.locals d).phase

def World.setLocal (w : World) (d : Nat) (l : Local) : World :=
  { w with locals := Function.update w.locals d l }

def World.setPhase (w : World) (d : Nat) (p : Phase) : World :=
  w.setLocal d { w.locals d with phase := p }

def World.publication (w : World) (d : Nat) (row : Row) : Publication :=
  ⟨d, row, (w.locals d).began.contains row.id⟩

def World.record (w : World) (d : Nat) (row : Row) : World :=
  { w with published := w.published ++ [w.publication d row] }

def publishedIds (w : World) : List Nat := w.published.map fun p => p.row.id

def World.isFresh (w : World) (id : Nat) : Bool :=
  !(idsOf w.table).contains id && !(w.pending.map fun p => p.2.id).contains id

def isIdle : Phase → Bool
  | .idle _ => true
  | _ => false

def step (ds : Nat → Dispatcher) (w : World) : Event → Option World
  | .insert tx row =>
    if w.ended tx = none ∧ row.attempts = 0 ∧ w.isFresh row.id = true then
      some { w with pending := w.pending ++ [(tx, row)], inserted := w.inserted ++ [(tx, row)] }
    else none
  | .commit tx =>
    if w.ended tx = none then
      some { w with
        table := w.table ++ (w.pending.filter fun p => p.1 = tx).map fun p => ⟨p.2, none⟩
        pending := w.pending.filter fun p => p.1 ≠ tx
        ended := Function.update w.ended tx (some .commit) }
    else none
  | .rollback tx =>
    if w.ended tx = none then
      some { w with
        pending := w.pending.filter fun p => p.1 ≠ tx
        ended := Function.update w.ended tx (some .rollback) }
    else none
  | .kick d =>
    let l := w.locals d
    some (w.setLocal d { l with kick := true, kicked := l.kicked ++ idsOf w.table })
  | .wake d byKick =>
    let l := w.locals d
    if isIdle l.phase = true ∧ (byKick = true → l.kick = true) then
      some (w.setLocal d
        { l with phase := .fetching, began := idsOf w.table, kick := l.kick && !byKick })
    else none
  | .fetch d locked ids =>
    if w.phase d = .fetching ∧ Claims (ds d).batch locked ids w.table then
      let table := bump ids w.table
      some ({ w with table }.setPhase d (.afterFetch (ds d) (.ok (rowsOf ids table))))
    else none
  | .fetchFails d err locked ids =>
    if w.phase d = .fetching ∧ (ids = [] ∨ Claims (ds d).batch locked ids w.table) then
      some ({ w with table := bump ids w.table }.setPhase d (.afterFetch (ds d) (.error err)))
    else none
  | .publish d =>
    match w.phase d with
    | .publishing row rest full =>
      some ((w.record d row).setPhase d (.afterPublish row rest full none))
    | _ => none
  | .publishFails d err =>
    match w.phase d with
    | .publishing row rest full => some (w.setPhase d (.afterPublish row rest full (some err)))
    | _ => none
  | .mark d now =>
    match w.phase d with
    | .marking row rest full =>
      some ({ w with table := stamp row.id now w.table }.setPhase d (.afterMark rest full none))
    | _ => none
  | .markFails d err applied =>
    match w.phase d with
    | .marking row rest full =>
      let table := applied.elim w.table fun now => stamp row.id now w.table
      some ({ w with table }.setPhase d (.afterMark rest full (some err)))
    | _ => none
  | .crash d => some (w.setLocal d { phase := .idle true, kicked := (w.locals d).kicked })

inductive Transition (ds : Nat → Dispatcher) (w : World) : Event → World → Prop where
  | insert (tx : Nat) (row : Row) : w.ended tx = none → row.attempts = 0 →
      w.isFresh row.id = true →
      Transition ds w (.insert tx row)
        { w with pending := w.pending ++ [(tx, row)], inserted := w.inserted ++ [(tx, row)] }
  | commit (tx : Nat) : w.ended tx = none →
      Transition ds w (.commit tx)
        { w with
          table := w.table ++ (w.pending.filter fun p => p.1 = tx).map fun p => ⟨p.2, none⟩
          pending := w.pending.filter fun p => p.1 ≠ tx
          ended := Function.update w.ended tx (some .commit) }
  | rollback (tx : Nat) : w.ended tx = none →
      Transition ds w (.rollback tx)
        { w with
          pending := w.pending.filter fun p => p.1 ≠ tx
          ended := Function.update w.ended tx (some .rollback) }
  | kick (d : Nat) :
      Transition ds w (.kick d)
        (w.setLocal d
          { w.locals d with kick := true, kicked := (w.locals d).kicked ++ idsOf w.table })
  | wake (d : Nat) (byKick failed : Bool) : w.phase d = .idle failed →
      (byKick = true → (w.locals d).kick = true) →
      Transition ds w (.wake d byKick)
        (w.setLocal d
          { w.locals d with
            phase := .fetching, began := idsOf w.table, kick := (w.locals d).kick && !byKick })
  | fetch (d : Nat) (locked ids : List Nat) : w.phase d = .fetching →
      Claims (ds d).batch locked ids w.table →
      Transition ds w (.fetch d locked ids)
        ({ w with table := bump ids w.table }.setPhase d
          (.afterFetch (ds d) (.ok (rowsOf ids (bump ids w.table)))))
  | fetchFails (d : Nat) (err : GoError) (locked ids : List Nat) : w.phase d = .fetching →
      (ids = [] ∨ Claims (ds d).batch locked ids w.table) →
      Transition ds w (.fetchFails d err locked ids)
        ({ w with table := bump ids w.table }.setPhase d (.idle true))
  | publish (d : Nat) (row : Row) (rest : List Row) (full : Bool) :
      w.phase d = .publishing row rest full →
      Transition ds w (.publish d)
        ((w.record d row).setPhase d (.marking row rest full))
  | publishFails (d : Nat) (err : GoError) (row : Row) (rest : List Row) (full : Bool) :
      w.phase d = .publishing row rest full →
      Transition ds w (.publishFails d err) (w.setPhase d (.idle true))
  | mark (d : Nat) (now : Int) (row : Row) (rest : List Row) (full : Bool) :
      w.phase d = .marking row rest full →
      Transition ds w (.mark d now)
        ({ w with table := stamp row.id now w.table }.setPhase d (.next full rest))
  | markFails (d : Nat) (err : GoError) (applied : Option Int) (row : Row) (rest : List Row)
      (full : Bool) : w.phase d = .marking row rest full →
      Transition ds w (.markFails d err applied)
        ({ w with table := applied.elim w.table fun now => stamp row.id now w.table }.setPhase d
          (.idle true))
  | crash (d : Nat) :
      Transition ds w (.crash d)
        (w.setLocal d { phase := .idle true, kicked := (w.locals d).kicked })

theorem step_transition {ds : Nat → Dispatcher} {w w' : World} {e : Event}
    (h : step ds w e = some w') : Transition ds w e w' := by
  cases e with
  | insert tx row =>
    simp only [step] at h
    split_ifs at h with hguard
    cases h
    exact .insert tx row hguard.1 hguard.2.1 hguard.2.2
  | commit tx =>
    simp only [step] at h
    split_ifs at h with hguard
    cases h
    exact .commit tx hguard
  | rollback tx =>
    simp only [step] at h
    split_ifs at h with hguard
    cases h
    exact .rollback tx hguard
  | kick d =>
    cases h
    exact .kick d
  | wake d byKick =>
    simp only [step] at h
    split_ifs at h with hguard
    cases h
    cases hphase : (w.locals d).phase with
    | idle failed => exact .wake d byKick failed hphase hguard.2
    | fetching | publishing | marking => simp [isIdle, hphase] at hguard
  | fetch d locked ids =>
    simp only [step] at h
    split_ifs at h with hguard
    cases h
    exact .fetch d locked ids hguard.1 hguard.2
  | fetchFails d err locked ids =>
    simp only [step] at h
    split_ifs at h with hguard
    cases h
    exact .fetchFails d err locked ids hguard.1 hguard.2
  | publish d =>
    simp only [step] at h
    split at h
    · next row rest full hphase =>
      cases h
      exact .publish d row rest full hphase
    · cases h
  | publishFails d err =>
    simp only [step] at h
    split at h
    · next row rest full hphase =>
      cases h
      exact .publishFails d err row rest full hphase
    · cases h
  | mark d now =>
    simp only [step] at h
    split at h
    · next row rest full hphase =>
      cases h
      exact .mark d now row rest full hphase
    · cases h
  | markFails d err applied =>
    simp only [step] at h
    split at h
    · next row rest full hphase =>
      cases h
      exact .markFails d err applied row rest full hphase
    · cases h
  | crash d =>
    cases h
    exact .crash d

@[simp] theorem setLocal_phase_self (w : World) (d : Nat) (l : Local) :
    (w.setLocal d l).phase d = l.phase := by
  simp [World.setLocal, World.phase]

theorem setLocal_phase_of_ne (w : World) {d d' : Nat} (l : Local) (h : d' ≠ d) :
    (w.setLocal d l).phase d' = w.phase d' := by
  simp [World.setLocal, World.phase, h]

theorem forall_setLocal_phase (w : World) {d : Nat} {l : Local} (P : Nat → Phase → Prop)
    (self : P d l.phase) (others : ∀ d', d' ≠ d → P d' (w.phase d')) :
    ∀ d', P d' ((w.setLocal d l).phase d') :=
  (Function.forall_update_iff w.locals fun d' l => P d' l.phase).mpr ⟨self, others⟩

@[simp] theorem setLocal_locals_self (w : World) (d : Nat) (l : Local) :
    (w.setLocal d l).locals d = l := by
  simp [World.setLocal]

theorem setLocal_locals_of_ne (w : World) {d d' : Nat} (l : Local) (h : d' ≠ d) :
    (w.setLocal d l).locals d' = w.locals d' := by
  simp [World.setLocal, h]

@[simp] theorem setPhase_locals_self (w : World) (d : Nat) (p : Phase) :
    (w.setPhase d p).locals d = { w.locals d with phase := p } := setLocal_locals_self w d _

@[simp] theorem setPhase_phase_self (w : World) (d : Nat) (p : Phase) :
    (w.setPhase d p).phase d = p := setLocal_phase_self w d _

theorem setPhase_phase_of_ne (w : World) {d d' : Nat} (p : Phase) (h : d' ≠ d) :
    (w.setPhase d p).phase d' = w.phase d' := setLocal_phase_of_ne w _ h

@[simp] theorem publishedIds_record (w : World) (d : Nat) (row : Row) :
    publishedIds (w.record d row) = publishedIds w ++ [row.id] := List.map_append

end DxCommonGo.OutboxWorld
