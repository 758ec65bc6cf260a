import DxCommonGo.AuthResolver
import DxCommonGo.SubjectTrust

/-! One user on both paths of the resolver. The headers carry subject, email, roles and
organisation, but no delegation scopes. -/

namespace DxCommonGo.ResolverPaths
open GoStrings GoMaps DxErrors AuthContext AuthResolver
open SubjectHeaders (Header Hmac UnixTime Bytes sign verify mint makeUser joinRoles splitRoles
  containsSeparator rolesContainSeparator verify_eq_ok sign_eq_ok hdrSubjectID hdrSubjectEmail
  hdrSubjectRoles hdrSubjectOrgID hdrSubjectIssuedAt hdrSubjectSig get_set_self get_set_of_ne)
open SubjectTrust (verify_signed splitRoles_joinRoles eq_nil_of_joinRoles get_mint_sig
  hmacHex_ne_nil markHmac)

/-- A service that accepts both paths, and a gateway that shares a secret with it and whose headers
are fresh. -/
structure Setting where
  mac : Hmac
  dxEnv : GoString
  cfg : Config
  validate : GoString → Except GoError DxClaims
  gateway : SubjectHeaders.Config
  issued : UnixTime
  now : Int
  hmac : cfg.allowHMAC = true
  direct : cfg.allowDirect = true
  enabled : cfg.jwt.enabled = true
  ready : cfg.jwt.validator = .ok validate
  shared : gateway.secret ∈ cfg.headers.secrets
  keyed : gateway.secret.length ≠ 0
  notEarly : -10 * 10 ^ 9 ≤ now - 10 ^ 9 * issued.sec
  notLate : now - 10 ^ 9 * issued.sec ≤ cfg.headers.window

def Setting.Reaches (s : Setting) (ord : RangeOrder) (guard : Middleware) (r : HttpRequest) :
    Prop :=
  ∃ mw reached, middleware s.mac s.dxEnv s.cfg ord s.now = some mw ∧
    mw (guard .reached) r = .reached reached

section Applied

end Applied

variable {ord : RangeOrder}

def Decides (guard : Middleware) (P : DxUser → (GoString → GoString) → Prop) : Prop :=
  ∀ r user, r.user = some user →
    ((∃ reached, guard .reached r = .reached reached) ↔ P user r.urlParam)

section Paths

variable (s : Setting) {ord : RangeOrder} {claims : DxClaims} {guard : Middleware}
  {P : DxUser → (GoString → GoString) → Prop} {r : HttpRequest}

end Paths

end DxCommonGo.ResolverPaths
