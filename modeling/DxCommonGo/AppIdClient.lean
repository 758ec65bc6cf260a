import DxCommonGo.AuthContext
import DxCommonGo.RelyGuarantee

/-! Package `appid`: machine clients are authenticated by the control plane, and a successful answer
is cached under a hash of the credentials. Control plane, service token and clock are the
environment's; the state keeps a record of it. -/

namespace DxCommonGo.AppIdClient
open GoStrings GoMaps GoErrors DxErrors Programs Threads RelyGuarantee AuthContext
open SubjectHeaders (Header timeUnix)

structure AppIdPrincipal where
  userId : GoString
  roles : List GoString := []
  scopes : List GoString := []
  expiresAtEpoch : Int64 := 0
  organisationId : GoString := []

structure VerifyAppIdResponse where
  success : Bool
  errorCode : GoString := []
  principal : Option AppIdPrincipal := none

/-- The user of an answer; the getters of a missing principal return zero values. -/
def VerifyAppIdResponse.user (resp : VerifyAppIdResponse) : DxUser :=
  let p := resp.principal.getD ⟨[], [], [], 0, []⟩
  { id := p.userId
    roles := p.roles
    organisationID := p.organisationId
    scopes := p.scopes.map fun s => { scope := s } }

def VerifyAppIdResponse.expiry (resp : VerifyAppIdResponse) : Int :=
  (resp.principal.map fun p => p.expiresAtEpoch.toInt).getD 0

/-- Times are in nanoseconds since 1970. -/
structure VerifyEntry where
  user : DxUser
  expiresAt : Int

structure Config where
  verifyCacheTTL : Int64 := 0

def Config.ttl (cfg : Config) : Int :=
  if cfg.verifyCacheTTL.toInt ≤ 0 then 60 * 10 ^ 9 else cfg.verifyCacheTTL.toInt

/-- SHA-256, without collisions. -/
structure Sha256 where
  sum : GoString → List UInt8
  injective : Function.Injective sum

def credentials (appID secret : GoString) : GoString := appID ++ str ":" ++ secret

def cacheKey (sha : Sha256) (appID secret : GoString) : GoString :=
  hexEncode (sha.sum (credentials appID secret))

def verificationError (code : GoString) : GoError := leaf (.other (str "VerificationError") code)

inductive Op where
  | lookup (key : GoString)
  | now
  | token
  | rpc (appID appSecret : GoString)
  | store (key : GoString) (entry : VerifyEntry)

@[reducible] def Reply : Op → Type
  | .lookup _ => Option VerifyEntry
  | .now => Int
  | .token => Option GoError
  | .rpc _ _ => Except GoError VerifyAppIdResponse
  | .store _ _ => Unit

abbrev AppIdProg (α : Type) := Prog Op Reply α

def ask (op : Op) : AppIdProg (Reply op) := perform op

def timeUntil (now sec : Int) : Int :=
  max (-2 ^ 63) (min (2 ^ 63 - 1) (10 ^ 9 * timeUnix sec - now))

/-- How long an answer may be cached: no longer than the principal lives. -/
def entryTTL (cfg : Config) (resp : VerifyAppIdResponse) : AppIdProg Int := do
  if 0 < resp.expiry then
    let now : Int ← ask .now
    return min (timeUntil now resp.expiry) cfg.ttl
  else return cfg.ttl

def cacheAnswer (cfg : Config) (key : GoString) (resp : VerifyAppIdResponse) :
    AppIdProg (Except GoError DxUser) := do
  let ttl ← entryTTL cfg resp
  if 0 < ttl then
    let now : Int ← ask .now
    ask (.store key ⟨resp.user, now + ttl⟩)
    return .ok resp.user
  else return .ok resp.user

def callControlPlane (cfg : Config) (key appID appSecret : GoString) :
    AppIdProg (Except GoError DxUser) := do
  let token : Option GoError ← ask .token
  match token with
  | some err => return .error (errorf (str "appid.VerifyAppId: service token: %w") err)
  | none =>
    let reply : Except GoError VerifyAppIdResponse ← ask (.rpc appID appSecret)
    match reply with
    | .error err => return .error (errorf (str "appid.VerifyAppId: rpc: %w") err)
    | .ok resp =>
      if resp.success then cacheAnswer cfg key resp
      else return .error (verificationError resp.errorCode)

def verifyAppId (sha : Sha256) (cfg : Config) (appID appSecret : GoString) :
    AppIdProg (Except GoError DxUser) := do
  let key := cacheKey sha appID appSecret
  let entry : Option VerifyEntry ← ask (.lookup key)
  match entry with
  | some e =>
    let now : Int ← ask .now
    if now < e.expiresAt then return .ok e.user
    else callControlPlane cfg key appID appSecret
  | none => callControlPlane cfg key appID appSecret

structure Setup where
  sha : Sha256
  cfg : Config
  calls : Nat → GoString × GoString

def Setup.program (u : Setup) (i : Nat) : AppIdProg (Except GoError DxUser) :=
  verifyAppId u.sha u.cfg (u.calls i).1 (u.calls i).2

structure Answer where
  call : Nat
  appID : GoString
  appSecret : GoString
  response : VerifyAppIdResponse

/-- The cache; then what has happened: the answers, the entries that calls have
stored, and the clock readings of each call. -/
structure World where
  cache : GoMap VerifyEntry := ∅
  answers : List Answer := []
  stored : List (Nat × VerifyEntry) := []
  readings : List (Nat × Int) := []

inductive Choice where
  | proceed
  | clock (t : Int)
  | token (err : Option GoError)
  | replies (reply : Except GoError VerifyAppIdResponse)

def answer (i : Nat) : (op : Op) → Choice → World → Option (Reply op × World)
  | .lookup key, .proceed, w => some (w.cache.lookup key, w)
  | .now, .clock t, w => some (t, { w with readings := (i, t) :: w.readings })
  | .token, .token err, w => some (err, w)
  | .rpc appID secret, .replies (.ok resp), w =>
    some (.ok resp, { w with answers := ⟨i, appID, secret, resp⟩ :: w.answers })
  | .rpc _ _, .replies (.error err), w => some (.error err, w)
  | .store key entry, .proceed, w =>
    some ((), { w with cache := w.cache.insert key entry, stored := (i, entry) :: w.stored })
  | _, _, _ => none

def env : Env Nat Op Reply (Except GoError DxUser) Choice Empty World :=
  ⟨answer, fun e _ => e.elim, fun _ _ => none⟩

def Setup.start (u : Setup) : System Nat Op Reply (Except GoError DxUser) World := ⟨u.program, {}⟩

/-- `basicCredentials` on the value of the header; `decode` is the standard base64. -/
def basicCredentials (decode : GoString → Option GoString) (header : GoString) :
    Option (GoString × GoString) :=
  match splitN2 header 32 with
  | [scheme, rest] =>
    if equalFold scheme (str "basic") then
      ((decode (trimSpace rest)).bind (cut 58)).filter fun p => p.1 ≠ [] && p.2 ≠ []
    else none
  | _ => none

end DxCommonGo.AppIdClient
