import DxCommonGo.DaoFinder
import DxCommonGo.TableServer

/-! The reads of a DAO with a soft-delete filter. What they return depends on the visible rows
alone; the filter compares with `<>`, so a row with NULL in the column is not visible either. -/

namespace DxCommonGo.ScopedReads
open GoStrings GoErrors QueryModel QueryBuilder Programs PgxPool BaseDao DaoFinder
open QueryMeaning SqlSemantics TableSemantics TableServer

variable {D T ω : Type}

def Visible (P : Database D) (d : BaseDAO) (row : Row D) : Bool :=
  satisfies P (d.withSoftDeleteFilter []) row

theorem withSoftDeleteFilter_eq (d : BaseDAO) (cs : List Condition) :
    d.withSoftDeleteFilter cs = cs ++ d.withSoftDeleteFilter [] := by
  unfold BaseDAO.withSoftDeleteFilter
  split_ifs
  · rw [List.append_nil]
  · rfl

theorem satisfies_scoped (P : Database D) (d : BaseDAO) (cs : List Condition) (row : Row D) :
    satisfies P (d.withSoftDeleteFilter cs) row = (satisfies P cs row && Visible P d row) := by
  rw [withSoftDeleteFilter_eq, satisfies_append, Visible]

def Filtered (d : BaseDAO) : Prop := d.softDeleteColumn ≠ [] ∧ d.unscoped = false

def passes (P : Database D) (d : BaseDAO) (x : Option D) : Bool :=
  P.compare .ne x (P.scalar (.str d.deletedValue)) = .true

variable {d : BaseDAO} {q : SelectQuery} {rows : List (Row D)}

theorem visible_eq (P : Database D) (filtered : Filtered d) (row : Row D) :
    Visible P d row = passes P d (row d.softDeleteColumn) := by
  have filter : d.withSoftDeleteFilter [] = [notEq d.softDeleteColumn (.str d.deletedValue)] := by
    rw [BaseDAO.withSoftDeleteFilter, if_neg (by simp [filtered.1, filtered.2])]
    rfl
  rw [Bool.eq_iff_iff, Visible, filter, satisfies_iff, passes, decide_eq_true_eq]
  simp [notEq, QueryModel.leaf, conditionTruth]

theorem passes_iff {P : Database D} {x : Option D} :
    passes P d x = true ↔ x ≠ none ∧ x ≠ some (P.encode (.str d.deletedValue)) := by
  rw [passes, decide_eq_true_eq, P.compare_ne]
  cases x with
  | none => simp [Comparison.compare, Truth.not]
  | some a =>
    simp only [Database.scalar, Comparison.compare, ne_eq, reduceCtorEq, not_false_eq_true,
      true_and, Option.some.injEq]
    by_cases same : a = P.encode (.str d.deletedValue)
    · rw [same, P.eq_self]
      simp [Truth.not]
    · rw [P.eq_of_ne _ _ same]
      simp [Truth.not, same]

inductive Terminal where
  | find | one | count | existsRow | page

def Terminal.Result (T : Type) : Terminal → Type
  | .find => BaseDao.Result (List T)
  | .one => BaseDao.Result T
  | .count => BaseDao.Result Int
  | .existsRow => BaseDao.Result Bool
  | .page => BaseDao.Result (Page T)

def Terminal.program (f : Finder) : (t : Terminal) → GoProg T (t.Result T)
  | .find => f.find
  | .one => f.one
  | .count => f.count
  | .existsRow => f.existsRow
  | .page => f.page

def Terminal.selects (f : Finder) : Terminal → List Select
  | .find => [.rows (f.query f.limit f.offset)]
  | .one => [.rows (f.query 1 f.offset)]
  | .count => [.count f.countQuery]
  | .existsRow => [.rows f.existsQuery]
  | .page => [.count f.countQuery, .rows (f.query (pageLimit f.limit) (pageOffset f.offset))]

inductive Read where
  | findByID (id : GoString)
  | findOne (conditions : List Condition)
  | findAll (conditions : List Condition)
  | findPage (conditions : List Condition) (orderBy : List OrderBy) (limit offset : Int)
  | count (conditions : List Condition)
  | existsRow (conditions : List Condition)
  | countBy (column : GoString) (conditions : List Condition)
  | finder (t : Terminal) (f : Finder)

def Read.Result (T : Type) : Read → Type
  | .findByID _ | .findOne _ => BaseDao.Result T
  | .findAll _ => BaseDao.Result (List T)
  | .findPage _ _ _ _ => BaseDao.Result (Page T)
  | .count _ => BaseDao.Result Int
  | .existsRow _ => BaseDao.Result Bool
  | .countBy _ _ => BaseDao.Result (AList fun _ : Value => Int)
  | .finder t _ => t.Result T

def Read.program (d : BaseDAO) : (r : Read) → GoProg T (r.Result T)
  | .findByID id => d.findByID id
  | .findOne conditions => d.findOne conditions
  | .findAll conditions => d.findAll conditions
  | .findPage conditions orderBy limit offset => d.findPage conditions orderBy limit offset
  | .count conditions => d.count conditions
  | .existsRow conditions => d.existsRow conditions
  | .countBy column conditions => d.countBy column conditions
  | .finder t f => t.program { f with dao := d }

def countByQuery (d : BaseDAO) (column : GoString) (conditions : List Condition) : SelectQuery where
  table := d.tableName
  columns := [column, str "COUNT(*) AS count"]
  conditions := d.withSoftDeleteFilter conditions
  groupBy := [column]

/-- The SELECTs a read can send; all but `CountBy` are those of a Finder. -/
def Read.selects (d : BaseDAO) : Read → List Select
  | .findByID id =>
    Terminal.one.selects { dao := d, conditions := [QueryModel.eq d.idColumn (.str id)] }
  | .findOne conditions => Terminal.one.selects { dao := d, conditions }
  | .findAll conditions => Terminal.find.selects { dao := d, conditions }
  | .findPage conditions orderBy limit offset =>
    Terminal.page.selects { dao := d, conditions, orderBy, limit, offset }
  | .count conditions => Terminal.count.selects { dao := d, conditions }
  | .existsRow conditions => Terminal.existsRow.selects { dao := d, conditions }
  | .countBy column conditions => [.countBy column (countByQuery d column conditions)]
  | .finder t f => t.selects { f with dao := d }

def Read.joins : Read → List Join
  | .finder _ f => f.joins
  | _ => []

def NotDeleted (P : Database D) (d : BaseDAO) (row : Row D) : Bool :=
  P.compare .eq (row d.softDeleteColumn) (P.scalar (.str d.deletedValue)) ≠ .true

theorem visible_eq_notDeleted (P : Database D) (filtered : Filtered d) {row : Row D}
    (value : row d.softDeleteColumn ≠ none) : Visible P d row = NotDeleted P d row := by
  obtain ⟨a, ha⟩ := Option.ne_none_iff_exists'.mp value
  rw [visible_eq P filtered, passes, NotDeleted, P.compare_ne, ha]
  by_cases same : a = P.encode (.str d.deletedValue)
  · simp [Database.scalar, Comparison.compare, same, P.eq_self, Truth.not]
  · simp [Database.scalar, Comparison.compare, P.eq_of_ne _ _ same, Truth.not]

theorem arranged_plain {E : Engine D} {table : GoString} {conditions : List Condition}
    {orderBy : List OrderBy} {limit offset : Int} {all : List (Row D)}
    (h : Arranged E { table, conditions, orderBy, limit, offset } rows all) :
    all.Perm (rows.filter (satisfies E.toDatabase conditions)) := by
  have plain := h.1.trans (E.shape_plain _)
  rwa [selected, E.source_nil] at plain

theorem outputs_plain {E : Engine D} {table : GoString} {conditions : List Condition}
    {out : List (Row D)} (h : Outputs E { table, conditions } rows out) :
    out.Perm (rows.filter (satisfies E.toDatabase conditions)) := by
  obtain ⟨all, arranged, rfl⟩ := h
  exact arranged_plain arranged

/-- `FindAll` returns the rows its unscoped twin returns without the deleted ones
exactly if no row that satisfies the conditions has NULL in the column. -/
theorem findAll_scoped_iff {B : Backend D (Row D) ω} (scan : B.scan = id) {d : BaseDAO}
    (filtered : Filtered d) (cs : List Condition)
    (served : ∀ sel ∈ (Read.findAll cs).selects d, B.Serves sel)
    (servedUnscoped : ∀ sel ∈ (Read.findAll cs).selects d.toUnscoped, B.Serves sel) (w : World ω) :
    ∃ out all w₁ w₂, run (handler B.server) (d.findAll cs) w = (.returned (.ok out), w₁) ∧
      run (handler B.server) (d.toUnscoped.findAll cs) w = (.returned (.ok all), w₂) ∧
      (out.Perm (all.filter (NotDeleted B.engine.toDatabase d)) ↔
        ∀ r ∈ B.rows w.server, satisfies B.engine.toDatabase cs r = true →
          r d.softDeleteColumn ≠ none) := by
  obtain ⟨out, w₁, outputs, hrun, -⟩ :=
    run_selectManyOf d w (served _ (List.mem_singleton_self _))
  obtain ⟨all, w₂, outputsAll, hrunAll, -⟩ :=
    run_selectManyOf d.toUnscoped w (servedUnscoped _ (List.mem_singleton_self _))
  rw [scan, List.map_id] at hrun hrunAll
  refine ⟨out, all, w₁, w₂, hrun, hrunAll, ?_⟩
  have shown : out.Perm ((B.rows w.server).filter
      (satisfies B.engine.toDatabase (d.withSoftDeleteFilter cs))) := outputs_plain outputs
  have unscoped : d.toUnscoped.withSoftDeleteFilter cs = cs := by
    simp [BaseDAO.withSoftDeleteFilter, BaseDAO.toUnscoped]
  have listed : all.Perm ((B.rows w.server).filter (satisfies B.engine.toDatabase cs)) := by
    rw [← unscoped]
    exact outputs_plain outputsAll
  have live := listed.filter (NotDeleted B.engine.toDatabase d)
  rw [List.filter_filter] at live
  constructor
  · intro same r hr hcs null
    have kept : r ∈ (B.rows w.server).filter
        fun r => NotDeleted B.engine.toDatabase d r && satisfies B.engine.toDatabase cs r := by
      simp [hr, hcs, NotDeleted, null, Comparison.compare]
    have hout : r ∈ out := same.mem_iff.mpr (live.mem_iff.mpr kept)
    have passed := (List.mem_filter.mp (shown.mem_iff.mp hout)).2
    rw [satisfies_scoped, Bool.and_eq_true, visible_eq _ filtered, passes_iff] at passed
    exact passed.2.1 null
  · intro values
    refine shown.trans (.trans ?_ live.symm)
    rw [List.filter_congr]
    intro r hr
    rw [satisfies_scoped, Bool.and_comm]
    by_cases hcs : satisfies B.engine.toDatabase cs r = true
    · rw [visible_eq_notDeleted _ filtered (values r hr hcs)]
    · simp only [hcs, Bool.and_false]

def untitled : Row Value := rowOf [str "id"] [some (.str (str "7"))]

def activeItems : BaseDAO :=
  newBaseDAOWith .pool (str "items") [.withSoftDeleteFilter (str "status")]

def itemBackend : Backend Value (Row Value) (List (Row Value)) :=
  readerBackend id (selectReader
    [({ dao := activeItems } : Finder).query 0 0,
      ({ dao := activeItems.toUnscoped } : Finder).query 0 0])

def titled : Row Value :=
  rowOf [str "id", str "status"] [some (.str (str "7")), some (.str (str "ACTIVE"))]

theorem findAll_scoped_titled :
    ∃ out all w₁ w₂,
      run (handler itemBackend.server) (activeItems.findAll []) ⟨[titled], []⟩ =
        (.returned (.ok out), w₁) ∧
      run (handler itemBackend.server) (activeItems.toUnscoped.findAll []) ⟨[titled], []⟩ =
        (.returned (.ok all), w₂) ∧
      out.Perm (all.filter (NotDeleted itemBackend.engine.toDatabase activeItems)) := by
  have filtered : Filtered activeItems := ⟨by decide, rfl⟩
  have served : ∀ sel ∈ (Read.findAll []).selects activeItems, itemBackend.Serves sel := by
    intro sel hsel
    rw [Read.selects, Terminal.selects, List.mem_singleton] at hsel
    subst hsel
    exact reader_selects id rfl rfl
  have servedUnscoped :
      ∀ sel ∈ (Read.findAll []).selects activeItems.toUnscoped, itemBackend.Serves sel := by
    intro sel hsel
    rw [Read.selects, Terminal.selects, List.mem_singleton] at hsel
    subst hsel
    exact reader_selects id rfl rfl
  obtain ⟨out, all, w₁, w₂, hrun, hrunAll, agree⟩ :=
    findAll_scoped_iff rfl filtered [] served servedUnscoped ⟨[titled], []⟩
  refine ⟨out, all, w₁, w₂, hrun, hrunAll, agree.mpr ?_⟩
  intro r hr _
  rw [show r = titled from List.mem_singleton.mp hr]
  decide

/-- A row that was never deleted is hidden because its column is NULL. -/
theorem findAll_hides_null :
    run (handler itemBackend.server) (activeItems.findAll []) ⟨[untitled], []⟩ =
      (.returned (.ok []), ⟨[untitled], []⟩) ∧
    run (handler itemBackend.server) (activeItems.toUnscoped.findAll []) ⟨[untitled], []⟩ =
      (.returned (.ok [untitled]), ⟨[untitled], []⟩) ∧
    untitled (str "status") = none := by
  refine ⟨?_, ?_, ?_⟩ <;> rfl

end DxCommonGo.ScopedReads
