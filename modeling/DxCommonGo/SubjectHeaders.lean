import DxCommonGo.DxErrors
import DxCommonGo.GoMaps

/-! Package `headers`: the gateway signs the resolved user into `X-Subject-*` headers and services
read it back. HMAC-SHA256 is a parameter; the clock readings are arguments. -/

namespace DxCommonGo.SubjectHeaders
open GoStrings GoMaps DxErrors

abbrev Bytes := List UInt8

/-- `http.Header`. The names used here are in canonical form already. -/
abbrev Header := GoMap (List GoString)

def Header.get (h : Header) (name : GoString) : GoString :=
  ((h.lookup name).bind List.head?).getD []

def Header.set (h : Header) (name value : GoString) : Header := h.insert name [value]

@[simp] theorem get_set_self (h : Header) (name value : GoString) :
    (h.set name value).get name = value := by
  simp [Header.get, Header.set]

theorem get_set_of_ne (h : Header) {name name' : GoString} (ne : name ≠ name') (value : GoString) :
    (h.set name' value).get name = h.get name := by
  simp [Header.get, Header.set, AList.lookup_insert_ne ne]

def hdrSubjectID : GoString := str "X-Subject-Id"
def hdrSubjectEmail : GoString := str "X-Subject-Email"
def hdrSubjectRoles : GoString := str "X-Subject-Roles"
def hdrSubjectOrgID : GoString := str "X-Subject-Org-Id"
def hdrSubjectIssuedAt : GoString := str "X-Subject-Issued-At"
def hdrSubjectSig : GoString := str "X-Subject-Sig"

structure DxUser where
  id : GoString
  email : GoString := []
  roles : List GoString := []
  organisationID : GoString := []
  deriving DecidableEq

structure Config where
  secret : Bytes
  additionalSecrets : List Bytes := []
  maxAge : Int64 := 0

def defaultMaxAge : Int := 60 * 10 ^ 9

def Config.window (cfg : Config) : Int :=
  if cfg.maxAge = 0 then defaultMaxAge else cfg.maxAge.toInt

/-- The seconds between the year 1, from which `time.Time` counts, and 1970. -/
def unixToInternal : Int := 62135596800

/-- A clock reading in seconds since 1970: package `time` can represent it. -/
structure UnixTime where
  sec : Int
  lower : -2 ^ 63 ≤ sec
  upper : sec + unixToInternal < 2 ^ 63

/-- `time.Unix(sec, 0)` in seconds since 1970; what is not representable wraps. -/
def timeUnix (sec : Int) : Int := (sec + unixToInternal).bmod (2 ^ 64) - unixToInternal

def timeSince (now sec : Int) : Int :=
  max (-2 ^ 63) (min (2 ^ 63 - 1) (now - 10 ^ 9 * timeUnix sec))

def errNotSigned : GoError := errorsNew (str "request has no subject signature")

def errInvalidSignature : GoError := errorsNew (str "invalid subject signature")

def canonicalString (id email roles org : GoString) (issuedAt : Int) : GoString :=
  join (str "|") [id, email, roles, org, itoa issuedAt]

def joinRoles (roles : List GoString) : GoString :=
  if roles.length = 0 then [] else join (str ",") (sortStrings roles)

def splitRoles (joined : GoString) : List GoString :=
  if joined = [] then [] else split joined 44

def containsSeparator (fields : List GoString) : Bool := fields.any fun f => f.contains 124

def rolesContainSeparator (roles : List GoString) : Bool :=
  roles.any fun r => r.any fun b => b = 124 || b = 44

def makeUser (id email roles org : GoString) : DxUser where
  id := id
  email := email
  roles := splitRoles roles
  organisationID := org

/-- HMAC-SHA256: 32 bytes for every key and message. -/
structure Hmac where
  sum : Bytes → GoString → Bytes
  size : ∀ key data, (sum key data).length = 32

variable (mac : Hmac)

def hmacHex (key : Bytes) (data : GoString) : GoString := hexEncode (mac.sum key data)

def verifyAgainst (key : Bytes) (canonical expected : GoString) : Bool :=
  if key.length = 0 then false
  else
    match hexDecode expected with
    | none => false
    | some got => decide (mac.sum key canonical = got)

def mint (user : DxUser) (secret : Bytes) (now : Int) : Header :=
  let rolesJoined := joinRoles user.roles
  let canonical := canonicalString user.id user.email rolesJoined user.organisationID now
  let sig := hmacHex mac secret canonical
  let h := Header.set ∅ hdrSubjectID user.id
  let h := if user.email ≠ [] then h.set hdrSubjectEmail user.email else h
  let h := if rolesJoined ≠ [] then h.set hdrSubjectRoles rolesJoined else h
  let h := if user.organisationID ≠ [] then h.set hdrSubjectOrgID user.organisationID else h
  (h.set hdrSubjectIssuedAt (itoa now)).set hdrSubjectSig sig

def sign (user : DxUser) (cfg : Config) (now : UnixTime) : Except GoError Header :=
  if cfg.secret.length = 0 then .error (errorsNew (str "headers.Sign: Secret is required"))
  else if trimSpace user.id = [] then
    .error (errorsNew (str "headers.Sign: user ID is required"))
  else if containsSeparator [user.id, user.email, user.organisationID] ||
      rolesContainSeparator user.roles then
    .error (errorsNew (str "headers.Sign: subject fields must not contain '|'"))
  else .ok (mint mac user cfg.secret now.sec)

def verify (h : Header) (cfg : Config) (now : Int) : Except GoError DxUser :=
  let sig := h.get hdrSubjectSig
  if sig = [] then .error errNotSigned
  else
    match atoi (h.get hdrSubjectIssuedAt) with
    | none => .error (errorf (str "%w: bad issued_at") errInvalidSignature)
    | some issuedAt =>
      let age := timeSince now issuedAt
      if age < -10 * 10 ^ 9 ∨ age > cfg.window then
        .error (errorf (str "%w: outside validity window (age=%s)") errInvalidSignature)
      else
        let id := h.get hdrSubjectID
        let email := h.get hdrSubjectEmail
        let roles := h.get hdrSubjectRoles
        let org := h.get hdrSubjectOrgID
        if trimSpace id = [] then
          .error (errorf (str "%w: empty subject id") errInvalidSignature)
        else
          let canonical := canonicalString id email roles org issuedAt
          if verifyAgainst mac cfg.secret canonical sig ||
              cfg.additionalSecrets.any fun alt => verifyAgainst mac alt canonical sig then
            .ok (makeUser id email roles org)
          else .error errInvalidSignature

def Config.secrets (cfg : Config) : List Bytes := cfg.secret :: cfg.additionalSecrets

variable {mac}

theorem verify_eq_ok {h : Header} {cfg : Config} {now : Int} {user : DxUser}
    (accepted : verify mac h cfg now = .ok user) :
    ∃ issuedAt key, atoi (h.get hdrSubjectIssuedAt) = some issuedAt ∧ key ∈ cfg.secrets ∧
      verifyAgainst mac key (canonicalString (h.get hdrSubjectID) (h.get hdrSubjectEmail)
        (h.get hdrSubjectRoles) (h.get hdrSubjectOrgID) issuedAt) (h.get hdrSubjectSig) = true ∧
      user = makeUser (h.get hdrSubjectID) (h.get hdrSubjectEmail) (h.get hdrSubjectRoles)
        (h.get hdrSubjectOrgID) := by
  unfold verify at accepted
  dsimp only at accepted
  split at accepted
  · cases accepted
  split at accepted
  · cases accepted
  · rename_i issuedAt parsed
    split_ifs at accepted with _ _ checked
    cases accepted
    have tagged : (cfg.secrets.any fun key => verifyAgainst mac key _ _) = true := checked
    obtain ⟨key, hkey, valid⟩ := List.any_eq_true.mp tagged
    exact ⟨issuedAt, key, parsed, hkey, valid, rfl⟩

theorem sign_eq_ok {user : DxUser} {cfg : Config} {now : UnixTime} {h : Header}
    (signed : sign mac user cfg now = .ok h) :
    cfg.secret.length ≠ 0 ∧ trimSpace user.id ≠ [] ∧
      containsSeparator [user.id, user.email, user.organisationID] = false ∧
      rolesContainSeparator user.roles = false ∧ h = mint mac user cfg.secret now.sec := by
  unfold sign at signed
  split_ifs at signed with secret blank separated
  rw [Bool.not_eq_true, Bool.or_eq_false_iff] at separated
  cases signed
  exact ⟨secret, blank, separated.1, separated.2, rfl⟩

end DxCommonGo.SubjectHeaders
