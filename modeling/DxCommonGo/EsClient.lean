import DxCommonGo.DxErrors

/-! The client of package `elasticsearch`: what becomes of an HTTP request, and the error that `Do`
and `DoNDJSON` make of it. -/

namespace DxCommonGo.EsClient
open GoStrings GoErrors DxErrors

structure ErrorBody where
  text : GoString
  error : Option (GoString × GoString) := none

def extractESError (body : ErrorBody) : GoString :=
  match body.error with
  | some (type, reason) => if reason ≠ [] then type ++ str ": " ++ reason else plain
  | none => plain
where
  plain := (trimSpace body.text).take 300

/-- The request is not sent, there is no response, the response cannot be read to its end, or it has
a status from 400 on. -/
inductive Failure where
  | unsent (err : GoError)
  | unreachable (err : GoError)
  | unreadable (err : GoError)
  | status (code : Nat) (body : ErrorBody)

abbrev Outcome (π : Type) := Except Failure π

def Failure.error : Failure → GoError
  | .unsent err => errorf (str "elastic: marshal request: %w") err
  | .unreachable err => errorf (str "elasticsearch unreachable: %w") err
  | .unreadable err => errorf (str "elastic: read response: %w") err
  | .status code body =>
    let detail := extractESError body
    if code = 404 then newNotFound detail
    else if code = 400 then newValidation detail
    else if code = 409 then newConflict detail
    else newError .internal (str "elasticsearch " ++ itoaNat code ++ str ": " ++ detail)

def Failure.bulkError : Failure → GoError
  | .unsent err => errorf (str "elastic: build bulk request: %w") err
  | .unreachable err => errorf (str "elastic: bulk request: %w") err
  | .unreadable err => errorf (str "elastic: read response: %w") err
  | .status code body =>
    errorsNew (str "elastic: bulk status " ++ itoaNat code ++ str ": " ++ extractESError body)

def doJSON {π : Type} (outcome : Outcome π) : Except GoError π := outcome.mapError Failure.error

def doNDJSON {π : Type} (outcome : Outcome π) : Except GoError π :=
  outcome.mapError Failure.bulkError

def isNotFound (err : GoError) : Bool := (errorsAs err asDxError).any fun e => e.code = .notFound

theorem isNotFound_newError (code : ErrorCode) (message : GoString) :
    isNotFound (newError code message) = decide (code = .notFound) := by
  rw [isNotFound, newError, errorsAs_leaf]
  rfl

theorem isNotFound_status (code : Nat) (body : ErrorBody) :
    isNotFound (Failure.status code body).error = decide (code = 404) := by
  simp only [Failure.error]
  split_ifs <;> simp_all [newNotFound, newValidation, newConflict, isNotFound_newError]

end DxCommonGo.EsClient
