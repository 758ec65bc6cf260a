import DxCommonGo.SubjectHeaders

/-! Packages `auth` and `authorization`: the user in the context of a request, and the middlewares
that let a request pass by roles or delegation scopes. -/

namespace DxCommonGo.AuthContext
open GoStrings GoMaps DxErrors
open SubjectHeaders (Header)

structure DelegationScopeEntry where
  scope : GoString
  entityID : GoString := []
  expiry : GoString := []
  deriving DecidableEq

structure DxUser where
  id : GoString
  email : GoString := []
  name : GoString := []
  roles : List GoString := []
  organisationID : GoString := []
  organisationName : GoString := []
  delegatorID : GoString := []
  scopes : List DelegationScopeEntry := []
  deriving DecidableEq

inductive Origin where
  | gateway | direct
  deriving DecidableEq, Repr

structure HttpRequest where
  header : Header
  urlParam : GoString → GoString
  user : Option DxUser := none
  origin : Option Origin := none

inductive Response where
  | rejected (err : GoError)
  | reached (r : HttpRequest)

abbrev Handler := HttpRequest → Response

abbrev Middleware := Handler → Handler

def withUser (r : HttpRequest) (user : DxUser) : HttpRequest := { r with user := some user }

def withOrigin (r : HttpRequest) (origin : Origin) : HttpRequest := { r with origin := some origin }

abbrev RoleSet := GoMap Unit

def newRoleSet (roles : List GoString) : RoleSet := insertAll ∅ (roles.map fun r => (r, ()))

def RoleSet.has (s : RoleSet) (role : GoString) : Bool := (s.lookup role).isSome

def RoleSet.hasAny (s : RoleSet) (roles : List GoString) : Bool :=
  roles.any fun r => RoleSet.has s r

def rolesToString (roles : List GoString) : GoString := join (str ", ") roles

def forRoles (roles : List GoString) : Middleware := fun next r =>
  let required := newRoleSet roles
  match r.user with
  | none => .rejected (newUnauthorized (str "no authenticated user in context"))
  | some user =>
    if RoleSet.hasAny required user.roles then next r
    else .rejected (newForbidden
      (str "insufficient role: one of " ++ rolesToString roles ++ str " required"))

variable {roles : List GoString}

theorem has_newRoleSet {role : GoString} :
    RoleSet.has (newRoleSet roles) role = true ↔ role ∈ roles := by
  have listed : role ∈ (roles.map fun r => (r, ())).map Prod.fst ↔ role ∈ roles := by simp
  rw [RoleSet.has, newRoleSet, ← listed]
  constructor
  · intro found
    rcases mem_insertAll (AList.lookup_isSome.mp found) with h | h
    · cases h
    · exact h
  · intro h
    obtain ⟨e, he, rfl⟩ := List.mem_map.mp h
    rw [lookup_insertAll_of_agree ∅ (v := ()) he fun _ _ => rfl]
    rfl

theorem hasAny_newRoleSet {held : List GoString} :
    RoleSet.hasAny (newRoleSet roles) held = true ↔ ∃ role ∈ held, role ∈ roles := by
  simp only [RoleSet.hasAny, List.any_eq_true, has_newRoleSet]

theorem forRoles_reached {r : HttpRequest} {user : DxUser} (carried : r.user = some user) :
    (∃ s, forRoles roles .reached r = .reached s) ↔ ∃ role ∈ user.roles, role ∈ roles := by
  rw [← hasAny_newRoleSet]
  simp only [forRoles, carried]
  split_ifs with held
  · simp [held]
  · simp [held]

end DxCommonGo.AuthContext
