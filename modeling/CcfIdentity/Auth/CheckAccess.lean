import CcfIdentity.Rbac.Assignments

/-!
# The access check

`package/src/auth.ts:30–111`. The token decoder is a third-party function and enters as a
parameter; everything after it is the code's. The callback of each outer `some` returns
`undefined` on every path, so no scan stops early, and the group scans run after the only
test of `denied`.
-/

open Utf16

namespace CcfIdentity

/-- `package/src/auth.ts:18–21`; both claims may be absent. -/
structure JwtPayload where
  oid : Option Text
  group_ids : Option (List Text)
deriving DecidableEq

/-- What the check reads of a request. -/
structure Request where
  headers : Table Text
  path : Text

/-- Lines 31–33: the second part of the authorization header, decoded. Splitting a missing
header throws; a header without a space hands `undefined` to the decoder. -/
def decodeToken (jwt_decode : Option Text → Except Failure JwtPayload) (request : Request) :
    Except Failure JwtPayload :=
  match request.headers[text "authorization"]? with
  | some authHeader => jwt_decode (split authHeader 0x20 2)[1]?
  | none => .error .typeError

/-- `(getRole(role) as IRoleDefinition).permissions`, or the type error of reading a list
of it: a role without permissions, a message in place of a role, or a key that is no
string. -/
def rolePermissions (s : Store) (role : Json) : Except Failure Permission :=
  match role with
  | .str roleId =>
    match getRole s roleId with
    | .inl irole =>
      match irole.permissions with
      | some perm => .ok perm
      | none => .error .typeError
    | .inr _ => .error .typeError
  | _ => .error .typeError

/-- The callback of a scan, with the flag it may set and the value it returns. -/
def scanRole (s : Store) (list : Permission → Option (List Text)) (resource : Text)
    (role : Json) : StateT Bool (Except Failure) Bool := do
  let perm ← rolePermissions s role
  match list perm with
  | some elements =>
    let result := elements.any (fun el => el == resource)
    if result then
      set true
      return false
    else
      return false
  | none => return false

/-- One of the four scans: `roles.some(...)`, returning the flag. -/
def scan (s : Store) (list : Permission → Option (List Text)) (resource : Text)
    (roles : List Json) (flag : Bool) : Except Failure Bool := do
  let (_, flag) ← (roles.anyM (scanRole s list resource)).run flag
  return flag

/-- Lines 80–110: the group scans and the answer. What the first of them finds is not
looked at again. -/
def checkGroups (s : Store) (gpRoles : Option (List Json)) (resource : Text)
    (denied allowed : Bool) : Except Failure Bool :=
  match gpRoles with
  | some roles => do
    let _denied ← scan s (·.notActions) resource roles denied
    let allowed ← scan s (·.actions) resource roles allowed
    return allowed
  | none => .ok allowed

/-- Lines 43–110: the principal's scans, then the groups'. -/
def checkRoles (s : Store) (spRoles : Option Json) (gpRoles : Option (List Json))
    (resource : Text) : Except Failure Bool :=
  match spRoles with
  | some roles =>
    if roles.truthy then
      match roles with
      | .arr roles => do
        let denied ← scan s (·.notActions) resource roles false
        if denied then
          return false
        else
          let allowed ← scan s (·.actions) resource roles false
          checkGroups s gpRoles resource denied allowed
      | _ => .error .typeError
    else checkGroups s gpRoles resource false false
  | none => checkGroups s gpRoles resource false false

/-- Line 40: an absent or empty list of groups is not looked up. -/
def lookupGroups (s : Store) (group_ids : Option (List Text)) :
    Except Failure (Option (List Json)) :=
  match group_ids with
  | some group_ids => if group_ids.length > 0 then getRolesForGroups s group_ids else .ok none
  | none => .ok none

/-- Lines 36–110: the check of a decoded token; both look-ups come first. -/
def checkToken (s : Store) (decodedToken : JwtPayload) (resource : Text) :
    Except Failure Bool := do
  let spRoles := decodedToken.oid.bind (getRolesForPrincipal s)
  let gpRoles ← lookupGroups s decodedToken.group_ids
  checkRoles s spRoles gpRoles resource

/-- `package/src/auth.ts:30–111`. -/
def checkAccess (jwt_decode : Option Text → Except Failure JwtPayload) (s : Store)
    (request : Request) : Except Failure Bool := do
  let decodedToken ← decodeToken jwt_decode request
  checkToken s decodedToken request.path

/-- A request for the path with a token in its authorization header. -/
def bearerRequest (path : Text) : Request :=
  { headers := (∅ : Table Text).insert (text "authorization") (text "Bearer token")
    path := path }

/-- Any token can be the one a request carries. -/
theorem decodeToken_bearerRequest (token : JwtPayload) (path : Text) :
    decodeToken (fun _ => .ok token) (bearerRequest path) = .ok token := by
  simp [decodeToken, bearerRequest]

/-- The check of a decoded token. -/
theorem checkAccess_of_decodeToken {jwt_decode : Option Text → Except Failure JwtPayload}
    {request : Request} {token : JwtPayload} (s : Store)
    (h : decodeToken jwt_decode request = .ok token) :
    checkAccess jwt_decode s request = checkToken s token request.path := by
  rw [checkAccess, h]
  rfl

end CcfIdentity
