import DxCommonGo.DxErrors
import DxCommonGo.NetHttp

/-! `WriteError` of package `errors`: the JSON answer to a domain error. -/

namespace DxCommonGo.ErrorResponses
open GoStrings DxErrors NetHttp

def urn : ErrorCode → GoString
  | .validation => str "urn:dx:as:InvalidParamValue"
  | .unauthorized => str "urn:dx:as:Unauthorized"
  | .forbidden => str "urn:dx:as:Forbidden"
  | .notFound => str "urn:dx:rs:ResourceNotFound"
  | .conflict => str "urn:dx:as:ResourceAlreadyExists"
  | .internal => str "urn:dx:as:InternalServerError"
  | .badGateway => str "urn:dx:as:BadGateway"
  | .serviceUnavailable => str "urn:dx:as:ServiceUnavailable"
  | .tooManyRequests => str "urn:dx:as:RateLimitExceeded"
  | .expired => str "urn:dx:as:TokenExpired"
  | .database => str "urn:dx:as:DatabaseError"
  | .methodNotAllowed => str "urn:dx:as:MethodNotAllowed"

def title : ErrorCode → GoString
  | .validation => str "Bad Request"
  | .unauthorized | .expired => str "Not Authorized"
  | .forbidden => str "Forbidden"
  | .notFound => str "Not Found"
  | .conflict => str "Conflict"
  | .internal | .database => str "Internal Server Error"
  | .badGateway => str "Bad Gateway"
  | .serviceUnavailable => str "Service Unavailable"
  | .tooManyRequests => str "Too Many Requests"
  | .methodNotAllowed => str "Method Not Allowed"

structure DxErrorResponse where
  type : GoString
  title : GoString
  detail : GoString
  errors : List GoString

def statusOf (code : ErrorCode) : Status := ⟨httpStatus code, by cases code <;> decide⟩

abbrev Encoder := DxErrorResponse → Bytes

def writeError (encode : Encoder) (err : BaseDxError) : List Call :=
  writeJSON (statusOf err.code)
    (encode ⟨urn err.code, title err.code, err.message, err.details⟩)

theorem statusOf_final (code : ErrorCode) : (statusOf code).informational = false := by
  cases code <;> rfl

end DxCommonGo.ErrorResponses
