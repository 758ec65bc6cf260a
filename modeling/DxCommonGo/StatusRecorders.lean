import DxCommonGo.AuditWorker
import DxCommonGo.AuthContext
import DxCommonGo.Compression
import DxCommonGo.TimeoutMiddleware

/-! The middlewares that remember the status of a response: `Logger`, `AuditWithWorker`, and
`Middleware` of package `auditing`. Each notes the argument of every WriteHeader; none has a Flush
method. -/

namespace DxCommonGo.StatusRecorders
open GoStrings NetHttp AuditWorker
open AuthContext (DxUser)
open Compression (unflushed)
open TimeoutMiddleware (lastStatus)

structure Request where
  method : GoString
  path : GoString
  remoteAddr : GoString
  userAgent : GoString := []
  user : Option DxUser := none
  requestID : GoString := []

structure ResponseWriter where
  status : Status := statusOK
  bytes : Nat := 0

def ResponseWriter.note (rw : ResponseWriter) : Call → ResponseWriter
  | .writeHeader status => { rw with status }
  | .write b => { rw with bytes := rw.bytes + b.length }
  | _ => rw

def responseWriter (script : List Call) : ResponseWriter :=
  (unflushed script).foldl ResponseWriter.note {}

structure StatusWriter where
  status : Status := statusOK

def StatusWriter.note (sw : StatusWriter) : Call → StatusWriter
  | .writeHeader status => { sw with status }
  | _ => sw

def statusWriter (script : List Call) : StatusWriter :=
  (unflushed script).foldl StatusWriter.note {}

structure LogEntry where
  method : GoString
  path : GoString
  status : Nat
  duration : Int
  bytes : Nat
  requestID : GoString
  remoteAddr : GoString

def logger (start now : Int) (r : Request) (script : List Call) : List Call × LogEntry :=
  let rw := responseWriter script
  (unflushed script,
    { method := r.method, path := r.path, status := rw.status.code, duration := now - start
      bytes := rw.bytes, requestID := r.requestID, remoteAddr := r.remoteAddr })

def noUser : DxUser := { id := [] }

def auditWithWorker (resource action : GoString) (now : Int) (r : Request) (script : List Call) :
    List Call × AuditEvent :=
  let rw := responseWriter script
  (unflushed script,
    { requestID := r.requestID, userID := (r.user.getD noUser).id, action, resource
      method := r.method, path := r.path, statusCode := rw.status.code, timestamp := now })

inductive LogType where
  | userAction | asset | credit
  deriving DecidableEq

structure Record where
  id : GoString
  userID : GoString := []
  userName : GoString
  role : GoString
  orgID : GoString := []
  orgName : GoString := []
  delegatorID : GoString := []
  api : GoString
  method : GoString
  action : GoString := []
  originServer : GoString
  requestID : GoString := []
  logType : LogType := .userAction
  ipAddress : GoString
  userAgent : GoString
  createdAt : GoString

def rolePrecedence : List GoString :=
  [str "cos_admin", str "org_admin", str "provider", str "consumer"]

def effectiveRole (roles : List GoString) : GoString :=
  match rolePrecedence.find? fun want => roles.contains want with
  | some want => want
  | none => roles.headD []

/-- The text in front of the last colon, unless a bracket comes behind it; the bytes are
read from the end. -/
def stripPort : GoString → Option GoString
  | [] => none
  | b :: before => if b = 58 then some before.reverse else if b = 93 then none else stripPort before

def clientIP (remoteAddr : GoString) : GoString :=
  (stripPort remoteAddr.reverse).getD remoteAddr

structure Stamp where
  id : GoString
  createdAt : GoString
  isUUID : GoString → Bool

def baseRecord (s : Stamp) (user : DxUser)
    (originServer api method ip userAgent requestID : GoString) : Record :=
  { id := s.id
    userID := if s.isUUID user.id then user.id else []
    userName := user.name
    role := effectiveRole user.roles
    orgID := if s.isUUID user.organisationID then user.organisationID else []
    orgName := if s.isUUID user.organisationID then user.organisationName else []
    delegatorID := if s.isUUID user.delegatorID then user.delegatorID else []
    api, method, originServer
    requestID := if s.isUUID requestID then requestID else []
    ipAddress := ip, userAgent, createdAt := s.createdAt }

def newRecord (s : Stamp) (originServer : GoString) (r : Request) : Record :=
  baseRecord s (r.user.getD noUser) originServer r.path r.method (clientIP r.remoteAddr)
    r.userAgent r.requestID

def statusesToAudit : List Nat := [200, 201, 204]

/-- `Middleware` of package `auditing`: the calls that reach the writer, and the record that is
published, which the handler fills in. -/
def auditing (pub : Bool) (s : Stamp) (originServer : GoString) (r : Request)
    (fill : Record → Record) (script : List Call) : List Call × Option Record :=
  let record := fill (newRecord s originServer r)
  let sw := statusWriter script
  (unflushed script,
    if !pub || record.action.isEmpty then none
    else if !statusesToAudit.contains sw.status.code then none
    else some record)

def remembered (script : List Call) : Status := (lastStatus (unflushed script)).getD statusOK

theorem foldl_noted {σ : Type} {status : σ → Status} {note : σ → Call → σ}
    (noted : ∀ s call, status (note s call) = (lastStatus [call]).getD (status s)) (s : σ)
    (calls : List Call) : status (calls.foldl note s) = (lastStatus calls).getD (status s) := by
  induction calls using List.reverseRecOn with
  | nil => rfl
  | append_singleton calls call ih =>
    rw [List.foldl_append, List.foldl_cons, List.foldl_nil, noted, ih]
    cases call <;> simp [lastStatus, List.filterMap_append]

theorem responseWriter_status (script : List Call) :
    (responseWriter script).status = remembered script :=
  foldl_noted (fun _ call => by cases call <;> rfl) _ _

theorem statusWriter_status (script : List Call) :
    (statusWriter script).status = remembered script :=
  foldl_noted (fun _ call => by cases call <;> rfl) _ _

section Recorders

variable (s : Stamp) (originServer : GoString) (r : Request) (fill : Record → Record)
  (script : List Call)

theorem published_iff :
    (∃ record, (auditing true s originServer r fill script).2 = some record) ↔
      (fill (newRecord s originServer r)).action ≠ [] ∧
        (remembered script).code ∈ statusesToAudit := by
  simp only [auditing, statusWriter_status, Bool.not_true, Bool.false_or]
  split_ifs with unset other
  · simp_all
  · simp_all
  · simp_all

/-- The three middlewares note the status that is sent exactly if the last WriteHeader is
the one that counts. A record that has an action is published as it should be exactly if
the last status and the one that is sent are both worth an audit, or both not. -/
theorem recorders_exact_iff (outer : Header) (start now : Int) (resource action : GoString) :
    ((logger start now r script).2.status =
        (respond outer (logger start now r script).1).status.code ∧
      (auditWithWorker resource action now r script).2.statusCode =
        (respond outer (auditWithWorker resource action now r script).1).status.code ∧
      (statusWriter script).status =
        (respond outer (auditing true s originServer r fill script).1).status ↔
      remembered script = (fixed (unflushed script)).1) ∧
    (((∃ record, (auditing true s originServer r fill script).2 = some record) ↔
        (fill (newRecord s originServer r)).action ≠ [] ∧
          (respond outer (auditing true s originServer r fill script).1).status.code ∈
            statusesToAudit) ↔
      ((fill (newRecord s originServer r)).action ≠ [] →
        ((remembered script).code ∈ statusesToAudit ↔
          (fixed (unflushed script)).1.code ∈ statusesToAudit))) := by
  have sent : (respond outer (unflushed script)).status = (fixed (unflushed script)).1 := by
    rw [respond_eq]
  constructor
  · simp only [logger, auditWithWorker, auditing, responseWriter_status, statusWriter_status, sent]
    constructor
    · exact fun h => h.2.2
    · intro same
      rw [same]
      exact ⟨rfl, rfl, rfl⟩
  · rw [published_iff]
    simp only [auditing, sent]
    tauto

end Recorders

def created : Status := ⟨201, by omega⟩

def getRequest : Request where
  method := str "GET"
  path := str "/items"
  remoteAddr := str "10.0.0.7:4711"

def plainStamp : Stamp := ⟨str "id", str "2026-01-01T00:00:00.000000", fun _ => false⟩

def marked (record : Record) : Record := { record with action := str "create" }

def createdScript : List Call :=
  [.writeHeader TimeoutMiddleware.earlyHints, .writeHeader created, .write (str "ok")]

theorem created_recorded :
    (logger 0 0 getRequest createdScript).2.status =
        (respond ∅ (logger 0 0 getRequest createdScript).1).status.code ∧
      ((∃ record, (auditing true plainStamp [] getRequest marked createdScript).2 = some record) ↔
        (marked (newRecord plainStamp [] getRequest)).action ≠ [] ∧
          (respond ∅ (auditing true plainStamp [] getRequest marked createdScript).1).status.code ∈
            statusesToAudit) := by
  have exact := recorders_exact_iff plainStamp [] getRequest marked createdScript ∅ 0 0 [] []
  exact ⟨(exact.1.mpr rfl).1, exact.2.mpr fun _ => Iff.rfl⟩

/-- A second WriteHeader is noted although it is not sent: a response with status 404 is
logged with 200 and audited, and one with status 200 is not audited. Early hints are noted
as the status of the response. -/
theorem superfluous_status_noted :
    ((respond ∅ (logger 0 0 getRequest [.writeHeader notFound, .writeHeader statusOK]).1).status =
        notFound ∧
      (logger 0 0 getRequest [.writeHeader notFound, .writeHeader statusOK]).2.status = 200 ∧
      (auditing true plainStamp [] getRequest marked
        [.writeHeader notFound, .writeHeader statusOK]).2.isSome = true) ∧
    ((respond ∅ (auditing true plainStamp [] getRequest marked
        [.write (str "ok"), .writeHeader notFound]).1).status = statusOK ∧
      (auditing true plainStamp [] getRequest marked
        [.write (str "ok"), .writeHeader notFound]).2.isSome = false) ∧
    (auditWithWorker [] [] 0 getRequest
      [.writeHeader TimeoutMiddleware.earlyHints, .write (str "ok")]).2.statusCode = 103 := by
  decide +kernel

end DxCommonGo.StatusRecorders
