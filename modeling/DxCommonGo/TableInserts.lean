import DxCommonGo.DaoWrites
import DxCommonGo.TableServer

/-! Statements that add a row. An INSERT proposes a row with defaults; ON CONFLICT updates the rows
that agree with it on a column. PostgreSQL refuses empty or repeating lists. -/

namespace DxCommonGo.TableInserts
open GoStrings GoMaps QueryModel QueryBuilder Programs PgxPool
open BaseDao DaoWrites QueryMeaning TableSemantics TableServer

/-- An INSERT of one row, with the stored rows it conflicts with and what it makes
of them; the proposed row comes first. -/
structure Insertion (D : Type) where
  built : SqlText × List Value
  columns : List GoString
  values : List Value
  accepted : Bool
  conflicts : Row D → Row D → Bool
  merge : Row D → Row D → Row D

variable {D T ω : Type}

def insertion (q : InsertQuery) : Insertion D where
  built := buildInsert q
  columns := q.columns
  values := q.values
  accepted := !q.columns.isEmpty
  conflicts _ _ := false
  merge _ stored := stored

/-- The stored row after `SET c = EXCLUDED.c` for every listed column. -/
def excluded (updateColumns : List GoString) (proposed stored : Row D) : Row D := fun column =>
  if updateColumns.contains column then proposed column else stored column

def upsertion (E : Engine D) (q : UpsertQuery) : Insertion D where
  built := buildUpsert q
  columns := q.columns
  values := q.values
  accepted := !q.columns.isEmpty && !q.updateColumns.isEmpty && decide q.updateColumns.Nodup
  conflicts proposed stored :=
    E.compare .eq (stored q.conflictColumn) (proposed q.conflictColumn) = .true
  merge := excluded q.updateColumns

namespace Insertion

def proposed (E : Engine D) (st : Insertion D) (defaults : Row D) : Row D := fun column =>
  ((st.columns.zip st.values).lookup column).elim (defaults column) E.scalar

def hits (st : Insertion D) (new stored : Row D) : Bool := st.accepted && st.conflicts new stored

def after (st : Insertion D) (new : Row D) (rows : List (Row D)) : List (Row D) :=
  (rows.map fun row => if st.hits new row then st.merge new row else row) ++
    if st.accepted && !rows.any (st.conflicts new) then [new] else []

def returned (st : Insertion D) (new : Row D) (rows : List (Row D)) : List (Row D) :=
  if rows.any (st.conflicts new) then (rows.filter (st.conflicts new)).map (st.merge new) else [new]

end Insertion

/-- The server carries the statement out, with the defaults of that moment, and returns the row; or
refuses it as malformed. -/
def Inserts (B : Backend D T ω) (defaults : ω → Row D) (st : Insertion D) : Prop :=
  ∀ conn s, ∃ reply s',
    B.server.answer (.query conn (render st.built.1) st.built.2) s = (reply, s') ∧
    B.rows s' = st.after (st.proposed B.engine (defaults s)) (B.rows s) ∧
    if st.accepted then
      reply = .ok (scanned B.scan (st.returned (st.proposed B.engine (defaults s)) (B.rows s)))
    else ∃ err, reply = .error err

theorem run_sendReturning {B : Backend D T ω} {defaults : ω → Row D} {st : Insertion D}
    (h : Inserts B defaults st) (d : BaseDAO) (w : World ω) :
    ∃ r w', run (handler B.server) (d.sendReturning st.built) w = (.returned r, w') ∧
      B.rows w'.server =
        st.after (st.proposed B.engine (defaults w.server)) (B.rows w.server) ∧
      if st.accepted then
        r = ((st.returned (st.proposed B.engine (defaults w.server)) (B.rows w.server)).head?.map
          B.scan).elim (.error (mapPgError errNoRows)) .ok
      else ∃ err, r = .error err := by
  obtain ⟨reply, s', answer, after, replied⟩ := h d.db w.server
  have asked : handler B.server (.query d.db (render st.built.1) st.built.2) w =
      (reply, { w with server := s' }) := by
    simp only [handler, askServer, answer]
  rw [BaseDAO.sendReturning, BaseDAO.selectOne, run_ask_bind, asked]
  cases accepted : st.accepted with
  | true =>
    rw [accepted, if_pos rfl] at replied
    subst replied
    refine ⟨_, _, rfl, after, ?_⟩
    rw [if_pos rfl]
    cases st.returned (st.proposed B.engine (defaults w.server)) (B.rows w.server) <;> rfl
  | false =>
    rw [accepted, if_neg Bool.false_ne_true] at replied
    obtain ⟨err, rfl⟩ := replied
    exact ⟨_, _, rfl, after, by rw [if_neg Bool.false_ne_true]; exact ⟨_, rfl⟩⟩

theorem lookup_zip_map {β : Type} (f : GoString → β) (columns : List GoString) (column : GoString) :
    (columns.zip (columns.map f)).lookup column =
      if columns.contains column then some (f column) else none := by
  induction columns with
  | nil => rfl
  | cons c columns ih =>
    rw [List.map_cons, List.zip_cons_cons, List.lookup_cons, ih, List.contains_cons]
    by_cases same : column = c
    · simp [same]
    · rw [beq_false_of_ne same, Bool.false_or]

theorem mem_splitMap {ord : RangeOrder} {m : GoMap Value} {column : GoString} :
    column ∈ (splitMap ord m).1 ↔ column ∈ m := by
  rw [splitMap, mem_sortStrings, mem_range_keys]

theorem lookup_splitMap (ord : RangeOrder) (m : GoMap Value) (column : GoString) :
    ((splitMap ord m).1.zip (splitMap ord m).2).lookup column = m.lookup column := by
  have paired : (splitMap ord m).2 =
      (splitMap ord m).1.map fun col => (m.lookup col).getD .nil := rfl
  rw [paired, lookup_zip_map]
  cases found : m.lookup column with
  | none =>
    rw [if_neg]
    rw [List.contains_iff_mem, mem_splitMap]
    exact AList.lookup_eq_none.mp found
  | some v =>
    rw [if_pos]
    · rw [Option.getD_some]
    · rw [List.contains_iff_mem, mem_splitMap, ← AList.lookup_isSome, found]
      rfl

theorem lookup_fillActor (column actor : GoString) (m : GoMap Value) (c : GoString) :
    (fillActor column actor m).lookup c =
      if c = column ∧ column ≠ [] ∧ column ∉ m then some (.str actor) else m.lookup c := by
  rw [fillActor]
  by_cases off : column = [] ∨ column ∈ m
  · rw [if_pos off, if_neg (by tauto)]
  · rw [if_neg off]
    rw [not_or] at off
    by_cases same : c = column
    · rw [if_pos ⟨same, off⟩, same, AList.lookup_insert]
    · rw [if_neg fun h => same h.1, AList.lookup_insert_ne same]

def insertServer (scan : Row Value → T) (defaults : Row Value) (st : Insertion Value) :
    Server T (List (Row Value)) where
  begin rows := (none, rows)
  finish _ _ rows := (none, rows)
  answer
    | .query _ _ _, rows =>
      let new := st.proposed valueEngine defaults
      (if st.accepted then .ok (scanned scan (st.returned new rows)) else .error errNoRows,
        st.after new rows)
    | op, rows => (readerServer scan (selectReader [])).answer op rows

def insertBackend (scan : Row Value → T) (defaults : Row Value) (st : Insertion Value) :
    Backend Value T (List (Row Value)) :=
  ⟨valueEngine, insertServer scan defaults st, id, scan⟩

theorem insertBackend_inserts (scan : Row Value → T) (defaults : Row Value) (st : Insertion Value) :
    Inserts (insertBackend scan defaults st) (fun _ => defaults) st := by
  intro conn rows
  refine ⟨_, _, rfl, rfl, ?_⟩
  cases st.accepted with
  | true => rfl
  | false => exact ⟨_, rfl⟩

end DxCommonGo.TableInserts
