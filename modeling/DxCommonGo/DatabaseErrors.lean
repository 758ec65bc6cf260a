import DxCommonGo.BaseDao
import DxCommonGo.ErrorResponses

/-! How database errors are answered. `MapPostgresError` translates an error or wraps it, so mapping
again does not change the domain error that the client is answered with. -/

namespace DxCommonGo.DatabaseErrors
open GoStrings GoErrors DxErrors NetHttp ErrorResponses
open BaseDao (mapPgError)

/-- `WriteServerError`: the calls, and the errors that `logUnexpected` is called with if
there is one. -/
def writeServerError (encode : Encoder) (err : GoError) (logUnexpected : Bool) :
    List Call × List GoError :=
  match errorsAs err asDxError with
  | some dxErr => (writeError encode dxErr, [])
  | none =>
    (writeError encode ⟨.internal, str "internal error", []⟩, if logUnexpected then [err] else [])

def handleDatabaseError (encode : Encoder) : Option GoError → List Call
  | none => []
  | some err =>
    match errorsAs (mapPostgresError err) asDxError with
    | some dxErr => writeError encode dxErr
    | none => writeError encode ⟨.database, str "database operation failed", []⟩

def errorStatus (err : GoError) : Nat :=
  ((errorsAs err asDxError).map fun e => httpStatus e.code).getD 500

variable (err : GoError)

section Status

variable (encode : Encoder) (outer : Header)

theorem respond_writeError (err : BaseDxError) :
    (respond outer (writeError encode err)).status.code = httpStatus err.code := by
  rw [respond_eq]
  simp only [writeError, writeJSON, fixed, statusOf_final, Bool.false_eq_true, if_false]
  rfl

theorem respond_writeServerError (logUnexpected : Bool) :
    (respond outer (writeServerError encode err logUnexpected).1).status.code =
      errorStatus err := by
  unfold writeServerError errorStatus
  cases errorsAs err asDxError with
  | none => exact respond_writeError encode outer _
  | some dxErr => exact respond_writeError encode outer _

theorem respond_handleDatabaseError :
    (respond outer (handleDatabaseError encode (some err))).status.code =
      errorStatus (mapPostgresError err) := by
  simp only [handleDatabaseError, errorStatus]
  cases errorsAs (mapPostgresError err) asDxError with
  | none => exact respond_writeError encode outer _
  | some dxErr => exact respond_writeError encode outer _

end Status

def pgTranslated (pgErr : PgError) : Option BaseDxError :=
  if pgErr.code = str "23505" then
    some ⟨.conflict, str "resource already exists: " ++ pgErr.detail, []⟩
  else if pgErr.code = str "23503" then
    some ⟨.validation, str "foreign key constraint violated: " ++ pgErr.detail, []⟩
  else if pgErr.code = str "23502" then
    some ⟨.validation, str "required field is null: " ++ pgErr.columnName, []⟩
  else if pgErr.code = str "23514" then
    some ⟨.validation, str "check constraint violated: " ++ pgErr.constraintName, []⟩
  else if pgErr.code = str "40001" then
    some ⟨.database, str "serialization failure, please retry", []⟩
  else if pgErr.code = str "40P01" then
    some ⟨.database, str "deadlock detected, please retry", []⟩
  else none

def translated (err : GoError) : Option BaseDxError :=
  if errorsIs err (.sentinel .noRows) then some ⟨.notFound, str "resource not found", []⟩
  else (errorsAs err asPgError).bind pgTranslated

theorem mapPostgresError_eq :
    mapPostgresError err =
      (translated err).elim (errorf (str "database error: %w") err) fun e => leaf (.dx e) := by
  unfold mapPostgresError translated
  split_ifs with missing
  · rfl
  · cases errorsAs err asPgError with
    | none => rfl
    | some pgErr =>
      simp only [Option.bind_some, pgTranslated]
      split_ifs <;> rfl

theorem translated_errorf (format : GoString) (err : GoError) :
    translated (errorf format err) = translated err := by
  have missing : errorsIs (errorf format err) (.sentinel .noRows) =
      errorsIs err (.sentinel .noRows) := by
    simp [errorsIs, errorf]
  have found : errorsAs (errorf format err) asPgError = errorsAs err asPgError :=
    errorsAs_node_one rfl err
  rw [translated, translated, missing, found]

theorem errorStatus_errorf (format : GoString) (err : GoError) :
    errorStatus (errorf format err) = errorStatus err := by
  have found : errorsAs (errorf format err) asDxError = errorsAs err asDxError :=
    errorsAs_node_one rfl err
  rw [errorStatus, errorStatus, found]

theorem translated_mapPostgresError : translated (mapPostgresError err) = none := by
  rw [mapPostgresError_eq]
  cases unrecognized : translated err with
  | none => rw [Option.elim_none, translated_errorf, unrecognized]
  | some e => rfl

inductive Rework where
  | wrap (format : GoString)
  | map

def Rework.apply : Rework → GoError → GoError
  | .wrap format, err => errorf format err
  | .map, err => mapPgError err

def rework (steps : List Rework) (err : GoError) : GoError :=
  steps.foldl (fun err step => step.apply err) err

theorem Rework.apply_status (step : Rework) {err : GoError} (h : translated err = none) :
    translated (step.apply err) = none ∧ errorStatus (step.apply err) = errorStatus err := by
  cases step with
  | wrap format => exact ⟨(translated_errorf format err).trans h, errorStatus_errorf format err⟩
  | map =>
    have wrapped : mapPgError err = errorf (str "database error: %w") err := by
      rw [mapPgError, mapPostgresError_eq, h, Option.elim_none]
    rw [Rework.apply, wrapped]
    exact ⟨(translated_errorf _ err).trans h, errorStatus_errorf _ err⟩

theorem rework_status (steps : List Rework) {err : GoError} (h : translated err = none) :
    errorStatus (rework steps err) = errorStatus err := by
  induction steps generalizing err with
  | nil => rfl
  | cons step steps ih =>
    obtain ⟨settled, same⟩ := step.apply_status h
    rw [rework, List.foldl_cons, ← rework, ih settled, same]

/-- Whatever is done with a mapped error, the client is answered with one status, and it is the
one that `HandleDatabaseError` writes for the original error. -/
theorem mapped_status (encode : Encoder) (outer : Header) (err : GoError) (logUnexpected : Bool) :
    (∀ steps : List Rework,
      (respond outer
          (writeServerError encode (rework steps (mapPgError err)) logUnexpected).1).status =
        (respond outer (writeServerError encode (mapPgError err) logUnexpected).1).status) ∧
    (respond outer (handleDatabaseError encode (some err))).status =
      (respond outer (writeServerError encode (mapPgError err) logUnexpected).1).status := by
  have by_code : ∀ s t : Status, s.code = t.code → s = t := by
    rintro ⟨code, _⟩ ⟨_, _⟩ rfl
    rfl
  constructor
  · intro steps
    apply by_code
    rw [respond_writeServerError, respond_writeServerError]
    exact rework_status steps (translated_mapPostgresError err)
  · apply by_code
    rw [respond_handleDatabaseError, respond_writeServerError]
    rfl

example : errorStatus (rework [.wrap (str "save: %w"), .map, .map] (mapPgError (errorf (str "a: %w")
    (errorf (str "b: %w") (leaf (.pg ⟨str "23505", [], [], []⟩)))))) = 409 := by
  decide

end DxCommonGo.DatabaseErrors
