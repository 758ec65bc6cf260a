import DxCommonGo.AuthContext

/-! Packages `jwt` and `resolver`, and the gateway's side of the signed headers. Checking tokens is
left to the validator, which may also fail to start; a middleware that panics when it is built is
`none`. -/

namespace DxCommonGo.AuthResolver
open GoStrings GoMaps DxErrors AuthContext
open SubjectHeaders (Header Hmac UnixTime sign verify hdrSubjectSig)

structure DelegationScopeClaim where
  scope : GoString
  entityID : GoString := []
  expiry : GoString := []

/-- The claims that the code reads; `realmRoles` and `resourceAccess` are the role
lists of the realm and of each client. -/
structure DxClaims where
  subject : GoString
  email : GoString := []
  name : GoString := []
  realmRoles : List GoString := []
  resourceAccess : GoMap (List GoString) := ∅
  organisationID : GoString := []
  organisationName : GoString := []
  delegatorID : GoString := []
  delegationScopes : List DelegationScopeClaim := []

/-- The `seen` set of `AllRoles` holds what the list already has. -/
def appendRole (roles : List GoString) (role : GoString) : List GoString :=
  if roles.contains role then roles else roles ++ [role]

def resourceAccessSite : Nat := 1

def applySite : Nat := 2

def DxClaims.allRoles (ord : RangeOrder) (c : DxClaims) : List GoString :=
  (range ord resourceAccessSite c.resourceAccess).foldl
    (fun roles ra => ra.2.foldl appendRole roles) (c.realmRoles.foldl appendRole [])

def DxClaims.scopeEntries (c : DxClaims) : List DelegationScopeEntry :=
  c.delegationScopes.map fun ds => ⟨ds.scope, ds.entityID, ds.expiry⟩

def DxClaims.user (ord : RangeOrder) (c : DxClaims) : DxUser where
  id := c.subject
  email := c.email
  name := c.name
  roles := c.allRoles ord
  organisationID := c.organisationID
  organisationName := c.organisationName
  delegatorID := c.delegatorID
  scopes := c.scopeEntries

/-- `validator` is what `New` made of the rest of the configuration. -/
structure JwtConfig where
  enabled : Bool
  validator : Except GoError (GoString → Except GoError DxClaims)

def mockUser : DxUser where
  id := str "00000000-0000-0000-0000-000000000000"
  email := str "dev@local"
  name := str "Dev User"
  roles := [str "consumer", str "provider"]

def badScheme : GoError := newUnauthorized (str "Authorization header must be 'Bearer <token>'")

def missingAuthorization : GoError := newUnauthorized (str "missing Authorization header")

def validating (validate : GoString → Except GoError DxClaims) (ord : RangeOrder) : Middleware :=
  fun next r =>
    let authHeader := r.header.get (str "Authorization")
    if authHeader = [] then .rejected missingAuthorization
    else
      match splitN2 authHeader 32 with
      | [scheme, token] =>
        if equalFold scheme (str "bearer") then
          match validate token with
          | .error _ => .rejected (newUnauthorized (str "invalid or expired token"))
          | .ok claims => next (withUser r (claims.user ord))
        else .rejected badScheme
      | _ => .rejected badScheme

def jwtMiddleware (dxEnv : GoString) (cfg : JwtConfig) (ord : RangeOrder) : Option Middleware :=
  if cfg.enabled then
    match cfg.validator with
    | .error _ => none
    | .ok validate => some (validating validate ord)
  else if equalFold dxEnv (str "production") || equalFold dxEnv (str "prod") then none
  else some fun next r => next (withUser r mockUser)

structure Config where
  headers : SubjectHeaders.Config
  jwt : JwtConfig
  allowDirect : Bool := false

def Config.allowHMAC (cfg : Config) : Bool := 0 < cfg.headers.secret.length

def firstWord (s : GoString) : GoString :=
  match cut 32 s with
  | some (word, _) => if word = [] then s else word
  | none => s

def subject (user : DxUser) : SubjectHeaders.DxUser :=
  ⟨user.id, user.email, user.roles, user.organisationID⟩

def ofSubject (user : SubjectHeaders.DxUser) : DxUser where
  id := user.id
  email := user.email
  roles := user.roles
  organisationID := user.organisationID

/-- The handler that `resolver.Middleware` returns; there is no JWT middleware when
the direct path is not allowed. -/
def resolve (mac : Hmac) (cfg : Config) (now : Int) (jwtMW : Option Middleware) : Middleware :=
  fun next r =>
    if cfg.allowHMAC ∧ r.header.get hdrSubjectSig ≠ [] then
      match verify mac r.header cfg.headers now with
      | .error _ => .rejected (newUnauthorized (str "invalid subject signature"))
      | .ok user => next (withOrigin (withUser r (ofSubject user)) .gateway)
    else
      match jwtMW with
      | none => .rejected (newUnauthorized (str "gateway-signed subject headers required"))
      | some jwtMW =>
        let authz := r.header.get (str "Authorization")
        if authz = [] then .rejected missingAuthorization
        else if equalFold (firstWord authz) (str "bearer") then
          jwtMW (fun rr => next (withOrigin rr .direct)) r
        else .rejected badScheme

def middleware (mac : Hmac) (dxEnv : GoString) (cfg : Config) (ord : RangeOrder) (now : Int) :
    Option Middleware :=
  if !cfg.allowHMAC && !cfg.allowDirect then none
  else if cfg.allowDirect then
    (jwtMiddleware dxEnv cfg.jwt ord).map fun jwtMW => resolve mac cfg now (some jwtMW)
  else some (resolve mac cfg now none)

def apply (ord : RangeOrder) (header signed : Header) : Header :=
  (range ord applySite signed).foldl (fun h e => h.set e.1 (signed.get e.1)) header

def forward (mac : Hmac) (ord : RangeOrder) (cfg : SubjectHeaders.Config) (issued : UnixTime)
    (claims : DxClaims) (r : HttpRequest) : Except GoError HttpRequest :=
  (sign mac (subject (claims.user ord)) cfg issued).map fun signed =>
    { r with header := apply ord r.header signed }

section Roles

def DxClaims.Holds (c : DxClaims) (role : GoString) : Prop :=
  role ∈ c.realmRoles ∨ ∃ client roles, c.resourceAccess.lookup client = some roles ∧ role ∈ roles

theorem mem_foldl_appendRole {new roles : List GoString} {role : GoString} :
    role ∈ new.foldl appendRole roles ↔ role ∈ roles ∨ role ∈ new := by
  induction new generalizing roles with
  | nil => simp
  | cons r new ih =>
    have step : role ∈ appendRole roles r ↔ role ∈ roles ∨ role = r := by
      unfold appendRole
      split_ifs with known
      · constructor
        · exact .inl
        · rintro (h | rfl)
          · exact h
          · exact List.contains_iff_mem.mp known
      · simp
    rw [List.foldl_cons, ih, step, List.mem_cons, or_assoc]

theorem mem_allRoles {ord : RangeOrder} {c : DxClaims} {role : GoString} :
    role ∈ c.allRoles ord ↔ c.Holds role := by
  have clients (ras : List (GoString × List GoString)) (roles : List GoString) :
      role ∈ ras.foldl (fun roles ra => ra.2.foldl appendRole roles) roles ↔
        role ∈ roles ∨ ∃ ra ∈ ras, role ∈ ra.2 := by
    induction ras generalizing roles with
    | nil => simp
    | cons ra ras ih => simp [ih, mem_foldl_appendRole, or_assoc]
  simp only [DxClaims.allRoles, clients, mem_foldl_appendRole, List.not_mem_nil, false_or,
    Prod.exists, mem_range, DxClaims.Holds]

end Roles

end DxCommonGo.AuthResolver
