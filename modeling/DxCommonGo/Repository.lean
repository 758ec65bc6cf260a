import DxCommonGo.DaoFinder
import DxCommonGo.DaoWrites

/-! Package `repository`, whose methods pass each call on to the DAO bound to the ambient
transaction. Driver errors reach the caller only through `mapPgError`, so none is retryable. -/

namespace DxCommonGo.Repository
open GoStrings GoMaps GoErrors DxErrors QueryModel QueryBuilder Programs PgxPool Transactions
open BaseDao DaoFinder

structure Base where
  dao : BaseDAO

def Base.daoIn (b : Base) (ctx : Context) : BaseDAO :=
  match txFromContext ctx with
  | some tx => b.dao.withTx tx
  | none => b.dao

/-- The operations of a DAO with their arguments. The terminals of a `Finder` take its criteria, and
run on the receiver. -/
inductive Call where
  | findByID (id : GoString)
  | findOne (conditions : List Condition)
  | findAll (conditions : List Condition)
  | findAllOrdered (conditions : List Condition) (orderBy : List OrderBy)
  | findByIDs (ids : List GoString)
  | select (sql : GoString) (args : List Value)
  | selectOne (sql : GoString) (args : List Value)
  | exec (sql : GoString) (args : List Value)
  | count (conditions : List Condition)
  | countBy (column : GoString) (conditions : List Condition)
  | existsRow (conditions : List Condition)
  | findPage (conditions : List Condition) (orderBy : List OrderBy) (limit offset : Int)
  | insert (columns : List GoString) (values : List Value)
  | insertIgnore (columns : List GoString) (values : List Value) (conflictColumn : GoString)
  | insertMap (m : GoMap Value)
  | insertReturning (columns : List GoString) (values : List Value) (returning : List GoString)
  | insertMany (columns : List GoString) (rows : List (List Value))
  | copyFrom (columns : List GoString) (rows : List (List Value))
  | update (set : GoMap Value) (conditions : List Condition)
  | updateReturning (set : GoMap Value) (conditions : List Condition)
  | upsert (m : GoMap Value) (conflictColumn : GoString) (updateColumns : List GoString)
  | updateVersioned (set : GoMap Value) (conditions : List Condition) (versionCol : GoString)
      (expected : Int)
  | updateByIDs (ids : List GoString) (set : GoMap Value)
  | softDelete (id : GoString)
  | hardDelete (conditions : List Condition)
  | deleteByIDs (ids : List GoString)
  | restore (id : GoString)
  | finderFind (criteria : Finder)
  | finderOne (criteria : Finder)
  | finderCount (criteria : Finder)
  | finderExists (criteria : Finder)
  | finderPage (criteria : Finder)

variable {T ω α β : Type}

def errorOf : Result α → Option GoError
  | .ok _ => none
  | .error err => some err

def failure (p : GoProg T (Result α)) : GoProg T (Option GoError) := do return errorOf (← p)

def Call.error (d : BaseDAO) (ord : RangeOrder) (ctx : Context) :
    Call → GoProg T (Option GoError)
  | .findByID id => failure (d.findByID id)
  | .findOne conditions => failure (d.findOne conditions)
  | .findAll conditions => failure (d.findAll conditions)
  | .findAllOrdered conditions orderBy => failure (d.findAllOrdered conditions orderBy)
  | .findByIDs ids => failure (d.findByIDs ids)
  | .select sql args => failure (d.select sql args)
  | .selectOne sql args => failure (d.selectOne sql args)
  | .exec sql args => failure (d.exec sql args)
  | .count conditions => failure (d.count conditions)
  | .countBy column conditions => failure (d.countBy column conditions)
  | .existsRow conditions => failure (d.existsRow conditions)
  | .findPage conditions orderBy limit offset =>
    failure (d.findPage conditions orderBy limit offset)
  | .insert columns values => d.insert columns values
  | .insertIgnore columns values conflictColumn =>
    failure (d.insertIgnore columns values conflictColumn)
  | .insertMap m => failure (d.insertMap ord ctx m)
  | .insertReturning columns values returning =>
    failure (d.insertReturning columns values returning)
  | .insertMany columns rows => d.insertMany columns rows
  | .copyFrom columns rows => failure (d.copyFrom columns rows)
  | .update set conditions => d.update ord ctx set conditions
  | .updateReturning set conditions => failure (d.updateReturning ord ctx set conditions)
  | .upsert m conflictColumn updateColumns =>
    failure (d.upsert ord ctx m conflictColumn updateColumns)
  | .updateVersioned set conditions versionCol expected =>
    failure (d.updateVersioned ord set conditions versionCol expected)
  | .updateByIDs ids set => d.updateByIDs ord ctx ids set
  | .softDelete id => d.softDelete id
  | .hardDelete conditions => d.hardDelete conditions
  | .deleteByIDs ids => d.deleteByIDs ids
  | .restore id => d.restore ord ctx id
  | .finderFind f => failure { f with dao := d }.find
  | .finderOne f => failure { f with dao := d }.one
  | .finderCount f => failure { f with dao := d }.count
  | .finderExists f => failure { f with dao := d }.existsRow
  | .finderPage f => failure { f with dao := d }.page

def CallFails (err : GoError) : Prop :=
  ∃ (T ω : Type) (S : Server T ω) (d : BaseDAO) (ord : RangeOrder) (ctx : Context) (call : Call)
    (w w' : World ω), run (handler S) (call.error d ord ctx) w = (.returned (some err), w')

theorem isRetryable_newError (code : ErrorCode) (message : GoString) :
    isRetryablePgError (newError code message) = false := by
  simp [isRetryablePgError, newError, errorsAs_leaf, asPgError]

theorem isRetryable_errorsNew (text : GoString) : isRetryablePgError (errorsNew text) = false := by
  simp [isRetryablePgError, errorsNew, errorsAs_leaf, asPgError]

theorem isRetryable_errorf (format : GoString) (err : GoError) :
    isRetryablePgError (errorf format err) = isRetryablePgError err := by
  simp only [isRetryablePgError, errorf]
  rw [errorsAs_node_one rfl]

theorem isRetryable_eq_false {err : GoError}
    (h : ∀ pgErr, errorsAs err asPgError = some pgErr →
      pgErr.code ≠ str "40001" ∧ pgErr.code ≠ str "40P01") : isRetryablePgError err = false := by
  unfold isRetryablePgError
  split
  · rfl
  · next pgErr hpg => simp [h pgErr hpg]

theorem isRetryable_mapPgError (err : GoError) : isRetryablePgError (mapPgError err) = false := by
  unfold mapPgError mapPostgresError
  split_ifs
  · exact isRetryable_newError _ _
  cases h : errorsAs err asPgError with
  | none =>
    rw [isRetryable_errorf]
    apply isRetryable_eq_false
    simp [h]
  | some pgErr =>
    dsimp only
    split_ifs with _ _ _ _ h40001 h40P01
    iterate 6 exact isRetryable_newError _ _
    rw [isRetryable_errorf]
    apply isRetryable_eq_false
    simp [h, h40001, h40P01]

def NotRetryable (e : Option GoError) : Prop := ∀ err, e = some err → isRetryablePgError err = false

theorem notRetryable_none : NotRetryable none := fun _ h => by cases h

theorem notRetryable_some {err : GoError} (h : isRetryablePgError err = false) :
    NotRetryable (some err) := by
  intro e he
  cases he
  exact h

theorem notRetryable_mapPgError (err : GoError) : NotRetryable (some (mapPgError err)) :=
  notRetryable_some (isRetryable_mapPgError err)

def Final (p : GoProg T (Result α)) : Prop := Post (fun r => NotRetryable (errorOf r)) p

theorem notRetryable_mapError (r : Result α) : NotRetryable (errorOf (r.mapError mapPgError)) := by
  cases r with
  | ok a => exact notRetryable_none
  | error err => exact notRetryable_mapPgError err

theorem notRetryable_map {r : Result α} (h : NotRetryable (errorOf r)) (f : α → β) :
    NotRetryable (errorOf (r.map f)) := by
  cases r with
  | ok a => exact notRetryable_none
  | error err => exact h

theorem notRetryable_found {r : Result T} (h : NotRetryable (errorOf r)) :
    NotRetryable (errorOf (BaseDAO.found r)) := by
  cases r with
  | ok a => exact notRetryable_none
  | error err =>
    unfold BaseDAO.found
    dsimp only
    split_ifs
    · exact notRetryable_none
    · exact h

theorem post_failure {p : GoProg T (Result α)} (h : Final p) : Post NotRetryable (failure p) :=
  post_bind h fun _ hr => hr

section Calls

variable (d : BaseDAO) (sql : GoString) (args : List Value) (q : SelectQuery)

theorem final_selectOne : Final (d.selectOne sql args : GoProg T (Result T)) := by
  refine post_perform_bind fun reply => ?_
  cases reply with
  | error err => exact notRetryable_mapPgError err
  | ok rows => exact notRetryable_mapError (collectOneRow rows)

theorem final_selectMany : Final (d.selectMany sql args : GoProg T (Result (List T))) := by
  refine post_perform_bind fun reply => ?_
  cases reply with
  | error err => exact notRetryable_mapPgError err
  | ok rows => exact notRetryable_mapError (collectRows rows)

theorem final_scanCountOf : Final (d.scanCountOf q : GoProg T (Result Int)) :=
  post_perform_bind fun reply => notRetryable_mapError reply

theorem final_countBy (column : GoString) (conditions : List Condition) :
    Final (d.countBy column conditions (T := T)) := by
  refine post_perform_bind fun reply => ?_
  cases reply with
  | error err => exact notRetryable_mapPgError err
  | ok rows => exact notRetryable_map (notRetryable_mapError (collectRows rows)) _

theorem final_found {p : GoProg T (Result T)} (h : Final p) :
    Final (do return BaseDAO.found (← p)) :=
  post_bind h fun _ hr => notRetryable_found hr

theorem final_finderCount (f : Finder) : Final (f.count : GoProg T (Result Int)) := by
  rw [Finder.count_eq]
  exact final_scanCountOf f.dao _

theorem final_finderExists (f : Finder) : Final (f.existsRow : GoProg T (Result Bool)) := by
  rw [Finder.existsRow_eq]
  exact final_found (final_selectOne f.dao _ _)

theorem final_finderPage (f : Finder) : Final (f.page : GoProg T (Result (Page T))) := by
  rw [Finder.page_eq, Finder.countedPage]
  refine post_bind (final_scanCountOf f.dao _) fun total htotal => ?_
  cases total with
  | error err => exact htotal
  | ok total =>
    simp only [pageOf]
    split_ifs
    · exact post_bind (final_selectMany f.dao _ _) fun _ hrows => notRetryable_map hrows _
    · exact notRetryable_none

theorem post_send (statement : SqlText × List Value) :
    Post NotRetryable (d.send statement : GoProg T (Option GoError)) := by
  refine post_perform_bind fun reply => ?_
  cases reply with
  | error err => exact notRetryable_mapPgError err
  | ok rowsAffected => exact notRetryable_none

theorem post_softDelete (id : GoString) :
    Post NotRetryable (d.softDelete id : GoProg T (Option GoError)) := by
  refine post_perform_bind fun reply => ?_
  cases reply with
  | error err => exact notRetryable_mapPgError err
  | ok rowsAffected =>
    change NotRetryable (if rowsAffected = 0 then some (mapPgError errNoRows) else none)
    split_ifs
    · exact notRetryable_mapPgError errNoRows
    · exact notRetryable_none

theorem final_insertReturning (columns : List GoString) (values : List Value)
    (returning : List GoString) :
    Final (d.insertReturning columns values returning (T := T)) := by
  refine post_perform_bind fun reply => ?_
  cases reply with
  | error err =>
    apply notRetryable_some
    rw [isRetryable_errorf, isRetryable_mapPgError]
  | ok dest => exact notRetryable_none

theorem final_insertIgnore (columns : List GoString) (values : List Value)
    (conflictColumn : GoString) :
    Final (d.insertIgnore columns values conflictColumn (T := T)) := by
  unfold BaseDAO.insertIgnore
  split_ifs
  · exact notRetryable_some (isRetryable_errorsNew _)
  refine post_perform_bind fun reply => ?_
  cases reply with
  | error err => exact notRetryable_mapPgError err
  | ok rowsAffected => exact notRetryable_none

theorem final_updateVersioned (ord : RangeOrder) (set : GoMap Value) (conditions : List Condition)
    (versionCol : GoString) (expected : Int) :
    Final (d.updateVersioned ord set conditions versionCol expected : GoProg T (Result T)) := by
  refine post_perform_bind fun reply => ?_
  cases reply with
  | error err => exact notRetryable_mapPgError err
  | ok rows =>
    dsimp only
    split
    · split_ifs
      · exact notRetryable_some (isRetryable_newError _ _)
      · exact notRetryable_mapPgError _
    · exact notRetryable_none

end Calls

/-- No call returns a retryable error, whatever the server answers. -/
theorem call_notRetryable (d : BaseDAO) (ord : RangeOrder) (ctx : Context) (call : Call) :
    Post NotRetryable (call.error d ord ctx : GoProg T (Option GoError)) := by
  cases call with
  | findByID | findOne | selectOne | insertMap | updateReturning | upsert | finderOne =>
    exact post_failure (final_selectOne d _ _)
  | findAll | findAllOrdered | select | finderFind =>
    exact post_failure (final_selectMany d _ _)
  | findByIDs ids =>
    refine post_failure ?_
    unfold BaseDAO.findByIDs
    split_ifs
    · exact notRetryable_none
    · exact final_selectMany d _ _
  | exec sql args => exact post_failure (post_perform_bind fun reply => notRetryable_mapError reply)
  | count => exact post_failure (final_scanCountOf d _)
  | countBy column conditions => exact post_failure (final_countBy d column conditions)
  | existsRow => exact post_failure (final_found (final_selectOne d _ _))
  | findPage conditions orderBy limit offset =>
    exact post_failure (final_finderPage { dao := d, conditions, orderBy, limit, offset })
  | insert | update | hardDelete => exact post_send d _
  | insertIgnore => exact post_failure (final_insertIgnore d _ _ _)
  | insertReturning => exact post_failure (final_insertReturning d _ _ _)
  | insertMany columns rows =>
    simp only [Call.error, BaseDAO.insertMany]
    split
    · exact notRetryable_some (isRetryable_errorsNew _)
    · exact notRetryable_none
    · exact post_send d _
  | copyFrom columns rows =>
    refine post_failure ?_
    unfold BaseDAO.copyFrom
    split_ifs
    · exact post_perform_bind fun reply => notRetryable_mapError reply
    · exact notRetryable_some (isRetryable_errorsNew _)
  | updateVersioned => exact post_failure (final_updateVersioned d ord _ _ _ _)
  | updateByIDs | deleteByIDs =>
    simp only [Call.error, BaseDAO.updateByIDs, BaseDAO.deleteByIDs]
    split_ifs
    · exact notRetryable_none
    · exact post_send d _
  | softDelete id => exact post_softDelete d id
  | restore id =>
    simp only [Call.error, BaseDAO.restore]
    split_ifs
    · exact notRetryable_some (isRetryable_errorsNew _)
    · exact post_send d.toUnscoped _
  | finderCount f => exact post_failure (final_finderCount { f with dao := d })
  | finderExists f => exact post_failure (final_finderExists { f with dao := d })
  | finderPage f => exact post_failure (final_finderPage { f with dao := d })

theorem CallFails.not_retryable {err : GoError} (h : CallFails err) :
    isRetryablePgError err = false := by
  obtain ⟨T, ω, S, d, ord, ctx, call, w, w', hrun⟩ := h
  exact post_returned (call_notRetryable d ord ctx call) hrun err rfl

end DxCommonGo.Repository
