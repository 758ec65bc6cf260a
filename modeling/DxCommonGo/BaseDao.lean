import DxCommonGo.QueryBuilder
import DxCommonGo.Transactions

/-! Package `dao`: reads, counts and existence checks of one table. Every statement goes to the
connection the DAO is bound to, and every error of the driver passes through `mapPgError`. -/

namespace DxCommonGo.BaseDao
open GoStrings DxErrors QueryModel QueryBuilder Programs PgxPool Transactions

structure BaseDAO where
  db : Conn
  tableName : GoString
  idColumn : GoString := str "id"
  softDeleteColumn : GoString := []
  softDeleteDeleted : GoString := []
  softDeleteActive : GoString := []
  unscoped : Bool := false
  auditCreatedBy : GoString := []
  auditUpdatedBy : GoString := []

def newBaseDAO (db : Conn) (tableName : GoString) : BaseDAO := { db, tableName }

abbrev DaoOption := BaseDAO → BaseDAO

namespace DaoOption

def withSoftDeleteFilter (column : GoString) : DaoOption := fun d =>
  { d with softDeleteColumn := column }

def withAuditColumns (createdBy updatedBy : GoString) : DaoOption := fun d =>
  { d with auditCreatedBy := createdBy, auditUpdatedBy := updatedBy }

end DaoOption

def newBaseDAOWith (db : Conn) (tableName : GoString) (opts : List DaoOption) : BaseDAO :=
  opts.foldl (fun d opt => opt d) (newBaseDAO db tableName)

abbrev Result (α : Type) := Except GoError α

def mapPgError (err : GoError) : GoError := mapPostgresError err

def errStaleVersion : GoError :=
  newConflict (str "resource was modified by another update (stale version)")

def actorFromContext (ctx : Context) : Option GoString := ctx.actor.filter (· ≠ [])

def idIn (ids : List GoString) : Value := .slice (ids.map .str)

namespace BaseDAO

variable {T : Type} (d : BaseDAO)

def withTx (tx : Nat) : BaseDAO := { d with db := .tx tx }

/-- `Unscoped`: a copy with the soft-delete filter suspended. -/
def toUnscoped : BaseDAO := { d with unscoped := true }

def deletedValue : GoString :=
  if d.softDeleteDeleted ≠ [] then d.softDeleteDeleted else str "DELETED"

def activeValue : GoString :=
  if d.softDeleteActive ≠ [] then d.softDeleteActive else str "ACTIVE"

def withSoftDeleteFilter (conditions : List Condition) : List Condition :=
  if d.softDeleteColumn = [] ∨ d.unscoped = true then conditions
  else conditions ++ [notEq d.softDeleteColumn (.str d.deletedValue)]

def selectOne (sql : GoString) (args : List Value) : GoProg T (Result T) := do
  match ← ask (.query d.db sql args) with
  | .error err => return .error (mapPgError err)
  | .ok rows => return (collectOneRow rows).mapError mapPgError

def selectMany (sql : GoString) (args : List Value) : GoProg T (Result (List T)) := do
  match ← ask (.query d.db sql args) with
  | .error err => return .error (mapPgError err)
  | .ok rows => return (collectRows rows).mapError mapPgError

def selectOneOf (q : SelectQuery) : GoProg T (Result T) :=
  d.selectOne (render (buildSelect q).1) (buildSelect q).2

def selectManyOf (q : SelectQuery) : GoProg T (Result (List T)) :=
  d.selectMany (render (buildSelect q).1) (buildSelect q).2

def findOne (conditions : List Condition) : GoProg T (Result T) :=
  d.selectOneOf
    { table := d.tableName, conditions := d.withSoftDeleteFilter conditions, limit := 1 }

def findByID (id : GoString) : GoProg T (Result T) :=
  d.selectOneOf
    { table := d.tableName
      conditions := d.withSoftDeleteFilter [QueryModel.eq d.idColumn (.str id)]
      limit := 1 }

def findAllOrdered (conditions : List Condition) (orderBy : List OrderBy) :
    GoProg T (Result (List T)) :=
  d.selectManyOf
    { table := d.tableName, conditions := d.withSoftDeleteFilter conditions, orderBy }

def findAll (conditions : List Condition) : GoProg T (Result (List T)) :=
  d.selectManyOf { table := d.tableName, conditions := d.withSoftDeleteFilter conditions }

def findByIDs (ids : List GoString) : GoProg T (Result (List T)) :=
  if ids.isEmpty then return .ok [] else d.findAll [isIn d.idColumn (idIn ids)]

def select (sql : GoString) (args : List Value) : GoProg T (Result (List T)) :=
  d.selectMany sql args

def exec (sql : GoString) (args : List Value) : GoProg T (Result Int) := do
  return (← ask (.exec d.db sql args)).mapError mapPgError

def scanCountOf (q : SelectQuery) : GoProg T (Result Int) := do
  return (← ask (.scanCount d.db (render (buildSelect q).1) (buildSelect q).2)).mapError mapPgError

def count (conditions : List Condition) : GoProg T (Result Int) :=
  d.scanCountOf
    { table := d.tableName, columns := [str "COUNT(*) AS count"]
      conditions := d.withSoftDeleteFilter conditions }

/-- The grouped counts; the map is filled row by row, so a repeated key keeps
its last count. -/
def countBy (column : GoString) (conditions : List Condition) :
    GoProg T (Result (AList fun _ : Value => Int)) := do
  let q := buildSelect
    { table := d.tableName, columns := [column, str "COUNT(*) AS count"]
      conditions := d.withSoftDeleteFilter conditions, groupBy := [column] }
  match ← ask (.queryCounts d.db (render q.1) q.2) with
  | .error err => return .error (mapPgError err)
  | .ok rows =>
    return ((collectRows rows).mapError mapPgError).map fun counts =>
      counts.foldl (fun m row => m.insert row.1 row.2) ∅

def found (r : Result T) : Result Bool :=
  match r with
  | .ok _ => .ok true
  | .error err => if isNotFoundError err then .ok false else .error err

def existsRow (conditions : List Condition) : GoProg T (Result Bool) := do
  return found (← d.findOne conditions)

end BaseDAO

structure Page (T : Type) where
  data : List T
  total : Int
  limit : Int
  offset : Int
  hasNext : Bool

/-- The page with the given total, whose rows are fetched only if the offset
lies below it. -/
def pageOf {T : Type} (total limit offset : Int) (rows : GoProg T (Result (List T))) :
    GoProg T (Result (Page T)) := do
  let page (data : List T) : Page T :=
    ⟨data, total, limit, offset, offset + data.length < total⟩
  if offset < total then return (← rows).map page
  else return .ok (page [])

def pageLimit (limit : Int) : Int := if limit ≤ 0 then 10 else limit

def pageOffset (offset : Int) : Int := if offset < 0 then 0 else offset

def BaseDAO.findPage {T : Type} (d : BaseDAO) (conditions : List Condition)
    (orderBy : List OrderBy) (limit offset : Int) : GoProg T (Result (Page T)) := do
  match ← d.count conditions with
  | .error err => return .error err
  | .ok total =>
    pageOf total (pageLimit limit) (pageOffset offset) <| d.selectManyOf
      { table := d.tableName, conditions := d.withSoftDeleteFilter conditions, orderBy
        limit := pageLimit limit, offset := pageOffset offset }

section Performs

variable {T : Type} {P : Op → Prop} (d : BaseDAO) {sql : GoString} {args : List Value}

theorem performs_selectOne (h : P (.query d.db sql args)) :
    Performs P (d.selectOne sql args : GoProg T (Result T)) := by
  refine performs_perform_bind h fun reply => ?_
  cases reply <;> trivial

theorem performs_selectMany (h : P (.query d.db sql args)) :
    Performs P (d.selectMany sql args : GoProg T (Result (List T))) := by
  refine performs_perform_bind h fun reply => ?_
  cases reply <;> trivial

theorem performs_scanCountOf {q : SelectQuery}
    (h : P (.scanCount d.db (render (buildSelect q).1) (buildSelect q).2)) :
    Performs P (d.scanCountOf q : GoProg T (Result Int)) :=
  performs_perform_bind h fun _ => trivial

theorem performs_pageOf {rows : GoProg T (Result (List T))} (h : Performs P rows)
    (total limit offset : Int) : Performs P (pageOf total limit offset rows) := by
  simp only [pageOf]
  split_ifs
  · exact performs_bind h fun _ => trivial
  · trivial

end Performs

end DxCommonGo.BaseDao
