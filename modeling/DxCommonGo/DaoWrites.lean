import DxCommonGo.BaseDao

/-! The writes of package `dao`, with the audit columns they fill from the acting user of the
context. -/

namespace DxCommonGo.DaoWrites
open GoStrings GoMaps GoErrors DxErrors QueryModel QueryBuilder PgxPool Transactions BaseDao

def splitMap (ord : RangeOrder) (m : GoMap Value) : List GoString × List Value :=
  let columns := sortStrings ((range ord 1 m).map Prod.fst)
  (columns, columns.map fun col => (m.lookup col).getD .nil)

def fillActor (column actor : GoString) (m : GoMap Value) : GoMap Value :=
  if column = [] ∨ column ∈ m then m else m.insert column (.str actor)

end DxCommonGo.DaoWrites

namespace DxCommonGo.BaseDao.BaseDAO
open GoStrings GoMaps GoErrors DxErrors QueryModel QueryBuilder PgxPool Transactions
open DaoWrites

variable {T : Type} (d : BaseDAO)

def auditInsert (ctx : Context) (m : GoMap Value) : GoMap Value :=
  match actorFromContext ctx with
  | none => m
  | some actor => fillActor d.auditUpdatedBy actor (fillActor d.auditCreatedBy actor m)

def auditUpdate (ctx : Context) (set : GoMap Value) : GoMap Value :=
  match actorFromContext ctx with
  | none => set
  | some actor => fillActor d.auditUpdatedBy actor set

def auditUpdateColumns (updateColumns : List GoString) : List GoString :=
  if d.auditUpdatedBy = [] ∨ updateColumns.any (· = d.auditUpdatedBy) then updateColumns
  else updateColumns ++ [d.auditUpdatedBy]

def send (statement : SqlText × List Value) : GoProg T (Option GoError) := do
  match ← ask (.exec d.db (render statement.1) statement.2) with
  | .error err => return some (mapPgError err)
  | .ok _ => return none

def sendReturning (statement : SqlText × List Value) : GoProg T (Result T) :=
  d.selectOne (render statement.1) statement.2

def insert (columns : List GoString) (values : List Value) : GoProg T (Option GoError) :=
  d.send (buildInsert { table := d.tableName, columns, values })

def insertIgnore (columns : List GoString) (values : List Value) (conflictColumn : GoString) :
    GoProg T (Result Bool) := do
  if columns.length ≠ values.length then
    return .error (errorsNew (str "dao.InsertIgnore: " ++ itoaNat columns.length ++
      str " columns but " ++ itoaNat values.length ++ str " values"))
  else
    let p := bindAll values Binder.first
    let sql := [lit "INSERT INTO ", .text d.tableName, lit " (", .text (join (str ", ") columns),
      lit ") VALUES ("] ++ join [lit ", "] p.1 ++
      [lit ") ON CONFLICT (", .text conflictColumn, lit ") DO NOTHING"]
    match ← ask (.exec d.db (render sql) values) with
    | .error err => return .error (mapPgError err)
    | .ok rowsAffected => return .ok (0 < rowsAffected)

def insertMap (ord : RangeOrder) (ctx : Context) (m : GoMap Value) : GoProg T (Result T) :=
  let p := splitMap ord (d.auditInsert ctx m)
  d.sendReturning (buildInsert
    { table := d.tableName, columns := p.1, values := p.2, returning := [str "*"] })

/-- The values scanned from RETURNING stand for the destinations. -/
def insertReturning (columns : List GoString) (values : List Value) (returning : List GoString) :
    GoProg T (Result (List Value)) := do
  let q := buildInsert { table := d.tableName, columns, values, returning }
  match ← ask (.scanRow d.db (render q.1) q.2) with
  | .error err => return .error (errorf (str "InsertReturning: %w") (mapPgError err))
  | .ok dest => return .ok dest

def update (ord : RangeOrder) (ctx : Context) (set : GoMap Value) (conditions : List Condition) :
    GoProg T (Option GoError) :=
  d.send (buildUpdate ord { table := d.tableName, set := d.auditUpdate ctx set, conditions })

def updateReturning (ord : RangeOrder) (ctx : Context) (set : GoMap Value)
    (conditions : List Condition) : GoProg T (Result T) :=
  d.sendReturning (buildUpdate ord
    { table := d.tableName, set := d.auditUpdate ctx set, conditions, returning := [str "*"] })

def upsert (ord : RangeOrder) (ctx : Context) (m : GoMap Value) (conflictColumn : GoString)
    (updateColumns : List GoString) : GoProg T (Result T) :=
  let p := splitMap ord (d.auditInsert ctx m)
  d.sendReturning (buildUpsert
    { table := d.tableName, columns := p.1, values := p.2, conflictColumn
      updateColumns := d.auditUpdateColumns updateColumns, returning := [str "*"] })

/-- The update guarded by a version; it alone leaves the audit columns alone and
reports a missing row as a stale version. -/
def updateVersioned (ord : RangeOrder) (set : GoMap Value) (conditions : List Condition)
    (versionCol : GoString) (expected : Int) : GoProg T (Result T) := do
  let q := buildUpdate ord
    { table := d.tableName, set, increment := [versionCol]
      conditions := conditions ++ [QueryModel.eq versionCol (.int expected)]
      returning := [str "*"] }
  match ← ask (.query d.db (render q.1) q.2) with
  | .error err => return .error (mapPgError err)
  | .ok rows =>
    match collectOneRow rows with
    | .error err =>
      if errorsIs err (.sentinel .noRows) then return .error errStaleVersion
      else return .error (mapPgError err)
    | .ok result => return .ok result

def updateByIDs (ord : RangeOrder) (ctx : Context) (ids : List GoString) (set : GoMap Value) :
    GoProg T (Option GoError) :=
  if ids.isEmpty then return none
  else d.update ord ctx set [isIn d.idColumn (idIn ids)]

def softDelete (id : GoString) : GoProg T (Option GoError) := do
  let q := buildDelete
    { table := d.tableName, conditions := [QueryModel.eq d.idColumn (.str id)], softDelete := true }
  match ← ask (.exec d.db (render q.1) q.2) with
  | .error err => return some (mapPgError err)
  | .ok rowsAffected => return if rowsAffected = 0 then some (mapPgError errNoRows) else none

def hardDelete (conditions : List Condition) : GoProg T (Option GoError) :=
  d.send (buildDelete { table := d.tableName, conditions })

def deleteByIDs (ids : List GoString) : GoProg T (Option GoError) :=
  if ids.isEmpty then return none else d.hardDelete [isIn d.idColumn (idIn ids)]

def restore (ord : RangeOrder) (ctx : Context) (id : GoString) : GoProg T (Option GoError) :=
  if d.softDeleteColumn = [] then
    return some (errorsNew (str "dao: Restore requires WithSoftDeleteFilter configuration"))
  else
    d.toUnscoped.update ord ctx (ofPairs [(d.softDeleteColumn, .str d.activeValue)])
      [QueryModel.eq d.idColumn (.str id)]

def copyFrom (columns : List GoString) (rows : List (List Value)) : GoProg T (Result Int) := do
  if d.db.isCopier then
    return (← ask (.copyFrom d.db d.tableName columns rows)).mapError mapPgError
  else
    return .error (errorsNew (str "dao.CopyFrom: underlying connection does not support CopyFrom"))

def insertMany (columns : List GoString) (rows : List (List Value)) : GoProg T (Option GoError) :=
  match QueryBuilder.insertMany d.tableName columns rows with
  | .error text => return some (errorsNew text)
  | .ok none => return none
  | .ok (some statement) => d.send statement

end DxCommonGo.BaseDao.BaseDAO
