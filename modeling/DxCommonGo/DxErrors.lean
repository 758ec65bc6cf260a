import DxCommonGo.GoErrors

/-! Package `errors`: domain errors, and the translation of driver errors into them. Nothing sets
the `cause` field of a domain error, so it unwraps to nothing. -/

namespace DxCommonGo.DxErrors
open GoStrings GoErrors

inductive ErrorCode where
  | validation | unauthorized | forbidden | notFound | conflict | internal | badGateway
  | serviceUnavailable | tooManyRequests | expired | database | methodNotAllowed
  deriving DecidableEq, Repr

structure BaseDxError where
  code : ErrorCode
  message : GoString
  details : List GoString
  deriving DecidableEq

structure PgError where
  code : GoString
  detail : GoString := []
  columnName : GoString := []
  constraintName : GoString := []
  deriving DecidableEq

inductive Sentinel where
  | noRows
  | canceled
  | deadlineExceeded
  | txClosed
  | breakerOpen
  deriving DecidableEq, Repr

inductive ErrorValue where
  | dx (e : BaseDxError)
  | pg (e : PgError)
  | sentinel (s : Sentinel)
  | wrap (format : GoString)
  | other (type text : GoString)
  deriving DecidableEq

abbrev GoError := ErrorTree ErrorValue

def errorf (format : GoString) (err : GoError) : GoError := .node (.wrap format) [err]

def errorsNew (text : GoString) : GoError := leaf (.other (str "errorString") text)

def newError (code : ErrorCode) (message : GoString) : GoError :=
  leaf (.dx ⟨code, message, []⟩)

def newValidation (message : GoString) : GoError := newError .validation message
def newUnauthorized (message : GoString) : GoError := newError .unauthorized message
def newForbidden (message : GoString) : GoError := newError .forbidden message
def newNotFound (message : GoString) : GoError := newError .notFound message
def newConflict (message : GoString) : GoError := newError .conflict message
def newDatabase (message : GoString) : GoError := newError .database message

def httpStatus : ErrorCode → Nat
  | .validation => 400
  | .unauthorized | .expired => 401
  | .forbidden => 403
  | .notFound => 404
  | .methodNotAllowed => 405
  | .conflict => 409
  | .tooManyRequests => 429
  | .internal | .database => 500
  | .badGateway => 502
  | .serviceUnavailable => 503

def asDxError : ErrorValue → Option BaseDxError
  | .dx e => some e
  | _ => none

def isNotFoundError (err : GoError) : Bool :=
  (errorsAs err asDxError).any fun e => httpStatus e.code = 404

def asPgError : ErrorValue → Option PgError
  | .pg e => some e
  | _ => none

def mapPostgresError (err : GoError) : GoError :=
  if errorsIs err (.sentinel .noRows) then newNotFound (str "resource not found")
  else
    let unrecognized := errorf (str "database error: %w") err
    match errorsAs err asPgError with
    | none => unrecognized
    | some pgErr =>
      if pgErr.code = str "23505" then
        newConflict (str "resource already exists: " ++ pgErr.detail)
      else if pgErr.code = str "23503" then
        newValidation (str "foreign key constraint violated: " ++ pgErr.detail)
      else if pgErr.code = str "23502" then
        newValidation (str "required field is null: " ++ pgErr.columnName)
      else if pgErr.code = str "23514" then
        newValidation (str "check constraint violated: " ++ pgErr.constraintName)
      else if pgErr.code = str "40001" then newDatabase (str "serialization failure, please retry")
      else if pgErr.code = str "40P01" then newDatabase (str "deadlock detected, please retry")
      else unrecognized

end DxCommonGo.DxErrors
