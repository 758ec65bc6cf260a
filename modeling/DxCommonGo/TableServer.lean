import DxCommonGo.BaseDao
import DxCommonGo.TableSemantics

/-! A server that keeps a table. A statement at hand is carried out as SQL means it, and nothing is
assumed of any other: each way of sending one has a lemma that says what comes back. -/

namespace DxCommonGo.TableServer
open GoStrings DxErrors QueryModel QueryBuilder Programs PgxPool BaseDao QueryMeaning
open TableSemantics

structure Backend (D T ω : Type) where
  engine : Engine D
  server : Server T ω
  rows : ω → List (Row D)
  scan : Row D → T

inductive Select where
  | rows (q : SelectQuery)
  | count (q : SelectQuery)
  | countBy (column : GoString) (q : SelectQuery)

def Select.query : Select → SelectQuery
  | .rows q | .count q | .countBy _ q => q

@[reducible] def Select.op (conn : Conn) : Select → Op
  | .rows q => .query conn (render (buildSelect q).1) (buildSelect q).2
  | .count q => .scanCount conn (render (buildSelect q).1) (buildSelect q).2
  | .countBy _ q => .queryCounts conn (render (buildSelect q).1) (buildSelect q).2

variable {D T ω : Type}

def scanned (scan : Row D → T) (out : List (Row D)) : Rows T := ⟨out.map fun r => .ok (scan r), none⟩

def Select.Answer (E : Engine D) (scan : Row D → T) (rows : List (Row D)) (conn : Conn) :
    (sel : Select) → Reply T (sel.op conn) → Prop
  | .rows q, reply => ∃ out, Outputs E q rows out ∧ reply = .ok (scanned scan out)
  | .count q, reply => reply = .ok ((selected E q rows).length : Int)
  | .countBy column q, reply =>
    ∃ out, List.Perm out (E.groups column (selected E q rows)) ∧ reply = .ok ⟨out.map .ok, none⟩

namespace Backend

variable (B : Backend D T ω)

def Serves (sel : Select) : Prop :=
  ∀ conn s, sel.Answer B.engine B.scan (B.rows s) conn (B.server.answer (sel.op conn) s).1 ∧
    B.rows (B.server.answer (sel.op conn) s).2 = B.rows s

def Applies (st : Write D) : Prop :=
  ∀ conn s, ∃ s',
    B.server.answer (.exec conn (render st.built.1) st.built.2) s =
      (.ok ((st.matched B.engine (B.rows s)).length : Int), s') ∧
    B.rows s' = st.after B.engine (B.rows s)

def Returns (st : Write D) : Prop :=
  ∀ conn s, ∃ out s',
    List.Perm out ((st.matched B.engine (B.rows s)).map st.change) ∧
    B.server.answer (.query conn (render st.built.1) st.built.2) s =
      (.ok (scanned B.scan out), s') ∧
    B.rows s' = st.after B.engine (B.rows s)

end Backend

theorem collectRows_ok {α β : Type} (f : α → β) (out : List α) :
    collectRows ⟨out.map fun r => .ok (f r), none⟩ = .ok (out.map f) := by
  have all : (out.map fun r => (.ok (f r) : Except GoError β)).mapM id = .ok (out.map f) := by
    induction out with
    | nil => rfl
    | cons r out ih =>
      rw [List.map_cons, List.mapM_cons, ih]
      rfl
  rw [collectRows, all]
  rfl

theorem handler_select (S : Server T ω) (sel : Select) (conn : Conn) (w : World ω) :
    handler S (sel.op conn) w =
      ((S.answer (sel.op conn) w.server).1,
        { w with server := (S.answer (sel.op conn) w.server).2 }) := by
  cases sel <;> rfl

section Reads

variable {B : Backend D T ω} (d : BaseDAO) {q : SelectQuery} (w : World ω)

theorem run_selectManyOf_reply {out : List (Row D)}
    (reply : (B.server.answer ((Select.rows q).op d.db) w.server).1 = .ok (scanned B.scan out)) :
    ∃ w', run (handler B.server) (d.selectManyOf q) w = (.returned (.ok (out.map B.scan)), w') ∧
      w'.server = (B.server.answer ((Select.rows q).op d.db) w.server).2 := by
  refine ⟨(handler B.server ((Select.rows q).op d.db) w).2, ?_, rfl⟩
  rw [BaseDAO.selectManyOf, BaseDAO.selectMany, run_ask_bind, handler_select B.server (.rows q)]
  simp only [reply, scanned, collectRows_ok]
  rfl

theorem run_selectManyOf (h : B.Serves (.rows q)) :
    ∃ out w', Outputs B.engine q (B.rows w.server) out ∧
      run (handler B.server) (d.selectManyOf q) w = (.returned (.ok (out.map B.scan)), w') ∧
      B.rows w'.server = B.rows w.server := by
  obtain ⟨⟨out, outputs, reply⟩, same⟩ := h d.db w.server
  obtain ⟨w', hrun, server⟩ := run_selectManyOf_reply d w reply
  exact ⟨out, w', outputs, hrun, server ▸ same⟩

theorem run_selectOneOf (h : B.Serves (.rows q)) :
    ∃ out w', Outputs B.engine q (B.rows w.server) out ∧
      run (handler B.server) (d.selectOneOf q) w =
        (.returned ((out.head?.map B.scan).elim (.error (mapPgError errNoRows)) .ok), w') ∧
      B.rows w'.server = B.rows w.server := by
  obtain ⟨⟨out, outputs, reply⟩, same⟩ := h d.db w.server
  refine ⟨out, (handler B.server ((Select.rows q).op d.db) w).2, outputs, ?_, same⟩
  rw [BaseDAO.selectOneOf, BaseDAO.selectOne, run_ask_bind, handler_select B.server (.rows q)]
  simp only [reply, scanned]
  cases out <;> rfl

theorem run_scanCountOf (h : B.Serves (.count q)) :
    ∃ w', run (handler B.server) (d.scanCountOf q) w =
        (.returned (.ok ((selected B.engine q (B.rows w.server)).length : Int)), w') ∧
      B.rows w'.server = B.rows w.server := by
  obtain ⟨reply, same⟩ := h d.db w.server
  refine ⟨(handler B.server ((Select.count q).op d.db) w).2, ?_, same⟩
  rw [BaseDAO.scanCountOf, run_ask_bind, handler_select B.server (.count q)]
  simp only [Select.Answer] at reply
  simp only [reply]
  rfl

end Reads

section Writes

variable {B : Backend D T ω} {st : Write D} (conn : Conn) (w : World ω)

theorem handler_applies (h : B.Applies st) :
    ∃ w', handler B.server (.exec conn (render st.built.1) st.built.2) w =
        (.ok ((st.matched B.engine (B.rows w.server)).length : Int), w') ∧
      B.rows w'.server = st.after B.engine (B.rows w.server) := by
  obtain ⟨s', reply, after⟩ := h conn w.server
  refine ⟨{ w with server := s' }, ?_, after⟩
  simp only [handler, askServer, reply]

theorem handler_returns (h : B.Returns st) :
    ∃ out w', List.Perm out ((st.matched B.engine (B.rows w.server)).map st.change) ∧
      handler B.server (.query conn (render st.built.1) st.built.2) w =
        (.ok (scanned B.scan out), w') ∧
      B.rows w'.server = st.after B.engine (B.rows w.server) := by
  obtain ⟨out, s', outputs, reply, after⟩ := h conn w.server
  refine ⟨out, { w with server := s' }, outputs, ?_, after⟩
  simp only [handler, askServer, reply]

end Writes

variable {q : SelectQuery}

section Answers

/-- The replies that SQL allows to the given SELECTs on these rows. -/
inductive Answers (E : Engine D) (scan : Row D → T) (rows : List (Row D)) (sels : List Select) :
    (op : Op) → Reply T op → Prop
  | intro {sel : Select} (mem : sel ∈ sels) (conn : Conn) {reply : Reply T (sel.op conn)}
      (answer : sel.Answer E scan rows conn reply) : Answers E scan rows sels (sel.op conn) reply

variable {E : Engine D} {scan : Row D → T} {rows rows' : List (Row D)} {sels : List Select}

theorem Answer.congr {sel : Select} {conn : Conn} {reply : Reply T (sel.op conn)}
    (same : (selected E sel.query rows).Perm (selected E sel.query rows'))
    (h : sel.Answer E scan rows conn reply) : sel.Answer E scan rows' conn reply := by
  cases sel with
  | rows q =>
    obtain ⟨out, ⟨all, ⟨arranged, ordered⟩, rfl⟩, hreply⟩ := h
    exact ⟨_, ⟨all, ⟨arranged.trans (E.shape_perm _ _ _ _ _ _ same), ordered⟩, rfl⟩, hreply⟩
  | count q =>
    have length : (selected E q rows).length = (selected E q rows').length := same.length_eq
    simp only [Select.Answer] at h ⊢
    rw [h, length]
  | countBy column q =>
    obtain ⟨out, grouped, hreply⟩ := h
    exact ⟨out, grouped.trans (E.groups_perm column _ _ same), hreply⟩

theorem Answers.congr (same : ∀ sel ∈ sels,
      (selected E sel.query rows).Perm (selected E sel.query rows')) (op : Op) (reply : Reply T op)
    (h : Answers E scan rows sels op reply) : Answers E scan rows' sels op reply := by
  cases h with
  | intro mem conn answer => exact .intro mem conn (Answer.congr (same _ mem) answer)

theorem Answers.elim {op : Op} {reply : Reply T op} (h : Answers E scan rows sels op reply) :
    ∃ sel ∈ sels, ∃ (conn : Conn) (same : sel.op conn = op) (r : Reply T (sel.op conn)),
      sel.Answer E scan rows conn r ∧ reply = same ▸ r := by
  cases h with
  | intro mem conn answer => exact ⟨_, mem, conn, rfl, _, answer, rfl⟩

end Answers

/-- An Exec is read as a write, a Query as a write with RETURNING or else a SELECT, and a count as a
SELECT. -/
structure Reader where
  write : GoString → List Value → Write Value
  returning : GoString → List Value → Option (Write Value)
  select : GoString → List Value → SelectQuery

def readerServer (scan : Row Value → T) (R : Reader) : Server T (List (Row Value)) where
  begin rows := (none, rows)
  finish _ _ rows := (none, rows)
  answer
    | .exec _ sql args, rows =>
      let st := R.write sql args
      (.ok (st.matched valueEngine rows).length, st.after valueEngine rows)
    | .query _ sql args, rows =>
      match R.returning sql args with
      | some st =>
        (.ok (scanned scan ((st.matched valueEngine rows).map st.change)),
          st.after valueEngine rows)
      | none =>
        let q := R.select sql args
        let shaped := valueEngine.shape q.distinct q.columns q.groupBy q.having
          (selected valueEngine q rows)
        (.ok (scanned scan (slice q.limit q.offset (sortRows q.orderBy shaped))), rows)
    | .scanCount _ sql args, rows =>
      (.ok (selected valueEngine (R.select sql args) rows).length, rows)
    | .queryCounts _ sql args, rows =>
      let q := R.select sql args
      let groups := q.groupBy.flatMap fun column => valueEngine.groups column
        (selected valueEngine q rows)
      (.ok ⟨groups.map .ok, none⟩, rows)
    | .begin, rows => (.error errNoRows, rows)
    | .finish _ _, rows => (none, rows)
    | .scanRow _ _ _, rows => (.error errNoRows, rows)
    | .copyFrom _ _ _ _, rows => (.error errNoRows, rows)
    | .ctxErr, rows => (none, rows)
    | .backoff _ _, rows => (0, rows)
    | .sleep _, rows => (none, rows)

def readerBackend (scan : Row Value → T) (R : Reader) : Backend Value T (List (Row Value)) :=
  ⟨valueEngine, readerServer scan R, id, scan⟩

def selectReader (qs : List SelectQuery) : Reader where
  write _ _ := ⟨([], []), [], id⟩
  returning _ _ := none
  select sql args :=
    let isRead (q : SelectQuery) : Bool := render (buildSelect q).1 = sql && (buildSelect q).2 = args
    (qs.find? isRead).getD { table := [] }

section Reader

variable (scan : Row Value → T) {R : Reader}

theorem reader_applies {st : Write Value} (h : R.write (render st.built.1) st.built.2 = st) :
    (readerBackend scan R).Applies st := by
  intro conn rows
  refine ⟨st.after valueEngine rows, ?_, rfl⟩
  simp only [readerBackend, readerServer, h]
  rfl

theorem reader_counts (h : R.select (render (buildSelect q).1) (buildSelect q).2 = q) :
    (readerBackend scan R).Serves (.count q) := by
  intro conn rows
  refine ⟨?_, rfl⟩
  simp only [readerBackend, readerServer, Select.Answer, h, id]

theorem reader_selects (h : R.select (render (buildSelect q).1) (buildSelect q).2 = q)
    (reads : R.returning (render (buildSelect q).1) (buildSelect q).2 = none) :
    (readerBackend scan R).Serves (.rows q) := by
  intro conn rows
  simp only [readerBackend, readerServer, Select.Answer, h, reads, and_true]
  refine ⟨_, ⟨_, ⟨sortRows_perm q.orderBy _, sortRows_ordered q.orderBy _⟩, rfl⟩, rfl⟩

end Reader

end DxCommonGo.TableServer
