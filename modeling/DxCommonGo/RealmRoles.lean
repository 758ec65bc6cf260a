import DxCommonGo.AuthResolver

/-! Which roles of a token open a route. `AllRoles` puts the roles of every client beside those of
the realm, and `ForRoles` cannot tell the two apart. -/

namespace DxCommonGo.RealmRoles
open GoStrings GoMaps DxErrors AuthContext AuthResolver

def Presents (validate : GoString → Except GoError DxClaims) (claims : DxClaims)
    (r : HttpRequest) : Prop :=
  ∃ scheme token, splitN2 (r.header.get (str "Authorization")) 32 = [scheme, token] ∧
    equalFold scheme (str "bearer") = true ∧ validate token = .ok claims

def Reaches (dxEnv : GoString) (cfg : JwtConfig) (ord : RangeOrder) (roles : List GoString)
    (r : HttpRequest) : Prop :=
  ∃ mw reached, jwtMiddleware dxEnv cfg ord = some mw ∧
    mw (forRoles roles .reached) r = .reached reached

def ClientGrants (claims : DxClaims) (role : GoString) : Prop :=
  ∃ client roles, claims.resourceAccess.lookup client = some roles ∧ role ∈ roles

variable {validate : GoString → Except GoError DxClaims} {claims : DxClaims} {r : HttpRequest}

theorem validating_presented (h : Presents validate claims r) (ord : RangeOrder)
    (next : Handler) : validating validate ord next r = next (withUser r (claims.user ord)) := by
  obtain ⟨scheme, token, parts, bearer, valid⟩ := h
  have given : r.header.get (str "Authorization") ≠ [] := by
    intro empty
    rw [empty] at parts
    cases parts
  simp only [validating, given, parts, bearer, valid, ↓reduceIte]

theorem reaches_iff_holds {cfg : JwtConfig} (enabled : cfg.enabled = true)
    (ready : cfg.validator = .ok validate) (presented : Presents validate claims r)
    (dxEnv : GoString) (ord : RangeOrder) (roles : List GoString) :
    Reaches dxEnv cfg ord roles r ↔ ∃ role ∈ roles, claims.Holds role := by
  simp only [Reaches, jwtMiddleware, enabled, ready, ↓reduceIte, Option.some.injEq,
    exists_and_left, exists_eq_left', validating_presented presented]
  rw [forRoles_reached rfl]
  simp only [DxClaims.user, mem_allRoles, and_comm]

/-- The realm's roles alone decide, unless a client entry names a required role and
the realm none. -/
theorem realm_decides_iff {cfg : JwtConfig} (enabled : cfg.enabled = true)
    (ready : cfg.validator = .ok validate) (presented : Presents validate claims r)
    (dxEnv : GoString) (ord : RangeOrder) (roles : List GoString) :
    (Reaches dxEnv cfg ord roles r ↔ ∃ role ∈ roles, role ∈ claims.realmRoles) ↔
      ((∃ role ∈ roles, ClientGrants claims role) → ∃ role ∈ roles, role ∈ claims.realmRoles) := by
  rw [reaches_iff_holds enabled ready presented]
  constructor
  · rintro decides ⟨role, required, granted⟩
    exact decides.mp ⟨role, required, .inr granted⟩
  · intro covered
    constructor
    · rintro ⟨role, required, realm | granted⟩
      · exact ⟨role, required, realm⟩
      · exact covered ⟨role, required, granted⟩
    · rintro ⟨role, required, realm⟩
      exact ⟨role, required, .inl realm⟩

def clientAdmin : DxClaims where
  subject := str "u-1"
  realmRoles := [str "consumer"]
  resourceAccess := ofPairs [(str "account", [str "cos_admin"])]

def clientAdminConfig : JwtConfig := ⟨true, .ok fun _ => .ok clientAdmin⟩

def clientAdminRequest : HttpRequest where
  header := ofPairs [(str "Authorization", [str "Bearer t"])]
  urlParam _ := []

theorem clientAdmin_presents : Presents (fun _ => .ok clientAdmin) clientAdmin clientAdminRequest :=
  ⟨str "Bearer", str "t", rfl, by decide, rfl⟩

theorem realm_decides_consumer :
    Reaches [] clientAdminConfig .listed [str "consumer", str "provider"] clientAdminRequest ↔
      ∃ role ∈ [str "consumer", str "provider"], role ∈ clientAdmin.realmRoles :=
  (realm_decides_iff rfl rfl clientAdmin_presents [] .listed _).mpr fun _ =>
    ⟨str "consumer", by decide, by decide⟩

/-- A role of a client opens a route for administrators of the platform. -/
theorem client_role_passes :
    Reaches [] clientAdminConfig .listed [str "cos_admin"] clientAdminRequest ∧
      ¬∃ role ∈ [str "cos_admin"], role ∈ clientAdmin.realmRoles :=
  ⟨⟨_, _, rfl, rfl⟩, by decide⟩

end DxCommonGo.RealmRoles
