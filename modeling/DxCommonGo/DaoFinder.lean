import DxCommonGo.BaseDao

/-! The fluent queries of package `dao`: a `Finder` accumulates criteria, and the functions here are
its terminals. -/

namespace DxCommonGo.DaoFinder
open GoStrings QueryModel QueryBuilder Programs PgxPool BaseDao

structure Finder where
  dao : BaseDAO
  conditions : List Condition := []
  orderBy : List OrderBy := []
  limit : Int := 0
  offset : Int := 0
  joins : List Join := []
  columns : List GoString := []
  groupBy : List GoString := []
  having : List Condition := []
  distinct : Bool := false

namespace Finder

variable {T : Type} (f : Finder)

def query (limit offset : Int) : SelectQuery where
  table := f.dao.tableName
  distinct := f.distinct
  columns := f.columns
  joins := f.joins
  conditions := f.dao.withSoftDeleteFilter f.conditions
  groupBy := f.groupBy
  having := f.having
  orderBy := f.orderBy
  limit := limit
  offset := offset

def find : GoProg T (Result (List T)) := f.dao.selectManyOf (f.query f.limit f.offset)

def one : GoProg T (Result T) := f.dao.selectOneOf (f.query 1 f.offset)

def count : GoProg T (Result Int) :=
  if f.joins.isEmpty then f.dao.count f.conditions
  else f.dao.scanCountOf
    { table := f.dao.tableName, columns := [str "COUNT(*) AS count"], joins := f.joins
      conditions := f.dao.withSoftDeleteFilter f.conditions }

def existsRow : GoProg T (Result Bool) :=
  if f.joins.isEmpty ∧ f.columns.isEmpty then f.dao.existsRow f.conditions
  else do
    return BaseDAO.found (← f.dao.selectOneOf
      { table := f.dao.tableName, columns := f.columns, joins := f.joins
        conditions := f.dao.withSoftDeleteFilter f.conditions, limit := 1 })

def page : GoProg T (Result (Page T)) :=
  if f.distinct = false ∧ f.joins.isEmpty ∧ f.columns.isEmpty ∧ f.groupBy.isEmpty ∧
      f.having.isEmpty then
    f.dao.findPage f.conditions f.orderBy f.limit f.offset
  else do
    match ← f.count with
    | .error err => return .error err
    | .ok total =>
      pageOf total (pageLimit f.limit) (pageOffset f.offset)
        (f.dao.selectManyOf (f.query (pageLimit f.limit) (pageOffset f.offset)))

def countQuery : SelectQuery where
  table := f.dao.tableName
  columns := [str "COUNT(*) AS count"]
  joins := f.joins
  conditions := f.dao.withSoftDeleteFilter f.conditions

def existsQuery : SelectQuery where
  table := f.dao.tableName
  columns := f.columns
  joins := f.joins
  conditions := f.dao.withSoftDeleteFilter f.conditions
  limit := 1

theorem count_eq : f.count = (f.dao.scanCountOf f.countQuery : GoProg T (Result Int)) := by
  unfold count
  split_ifs with joins
  · rw [List.isEmpty_iff] at joins
    rw [BaseDAO.count, countQuery, joins]
  · rfl

theorem existsRow_eq :
    f.existsRow = (do return BaseDAO.found (← f.dao.selectOneOf f.existsQuery) :
      GoProg T (Result Bool)) := by
  unfold existsRow
  split_ifs with fast
  · obtain ⟨joins, columns⟩ := fast
    rw [List.isEmpty_iff] at joins columns
    rw [BaseDAO.existsRow, BaseDAO.findOne, existsQuery, joins, columns]
  · rfl

def countedPage : GoProg T (Result (Page T)) := do
  match ← f.dao.scanCountOf f.countQuery with
  | .error err => return .error err
  | .ok total =>
    pageOf total (pageLimit f.limit) (pageOffset f.offset)
      (f.dao.selectManyOf (f.query (pageLimit f.limit) (pageOffset f.offset)))

theorem page_eq : f.page = (f.countedPage : GoProg T (Result (Page T))) := by
  unfold page
  split_ifs with fast
  · obtain ⟨distinct, joins, columns, groupBy, having⟩ := fast
    rw [List.isEmpty_iff] at joins columns groupBy having
    rw [countedPage, countQuery, query, distinct, joins, columns, groupBy, having]
    rfl
  · exact congrArg (fun total => total >>= _) f.count_eq

variable {P : Op → Prop}

theorem performs_count
    (h : P (.scanCount f.dao.db (render (buildSelect f.countQuery).1)
      (buildSelect f.countQuery).2)) :
    Performs P (f.count : GoProg T (Result Int)) := by
  rw [count_eq]
  exact performs_scanCountOf f.dao h

theorem performs_existsRow
    (h : P (.query f.dao.db (render (buildSelect f.existsQuery).1) (buildSelect f.existsQuery).2)) :
    Performs P (f.existsRow : GoProg T (Result Bool)) := by
  rw [existsRow_eq]
  exact performs_bind (performs_selectOne f.dao h) fun _ => trivial

theorem performs_page
    (count : P (.scanCount f.dao.db (render (buildSelect f.countQuery).1)
      (buildSelect f.countQuery).2))
    (page : ∀ q, q = f.query (pageLimit f.limit) (pageOffset f.offset) →
      P (.query f.dao.db (render (buildSelect q).1) (buildSelect q).2)) :
    Performs P (f.page : GoProg T (Result (Page T))) := by
  rw [page_eq, countedPage]
  refine performs_bind (performs_scanCountOf f.dao count) fun total => ?_
  cases total with
  | error err => trivial
  | ok total => exact performs_pageOf (performs_selectMany f.dao (page _ rfl)) _ _ _

end Finder

end DxCommonGo.DaoFinder
