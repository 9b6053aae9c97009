import CcfIdentity.Auth.Outcome
import CcfIdentity.Network.Steps

/-!
# The store as its interfaces declare it

The interfaces declare an assignment to be a list of role identifiers
(`package/src/models/roleAssignment.ts:4–6`). This is the program they describe: a first
grant starts such a list, a later one extends it, and the check goes through the lists of the
token's identifiers. Roles and membership are kept as the code keeps them.
-/

open Utf16

namespace CcfIdentity

/-- `package/src/models/roleAssignment.ts:4–6`. -/
structure RoleAssignment where
  roles : List Text

/-- The four tables, with assignments as they are declared. -/
structure Declared where
  roles : Table IRoleDefinition
  roleAssignments : Table RoleAssignment
  idMap : Table Text
  groupMap : Table Text

namespace Declared

/-- The tables of a new network. -/
def empty : Declared := ⟨∅, ∅, ∅, ∅⟩

/-- The JSON value of an assignment. -/
def assignmentJson (assignment : RoleAssignment) : Json :=
  .obj [(rolesProperty, .arr (assignment.roles.map .str))]

/-- The store with these assignments as JSON values. -/
def toStore (d : Declared) : Store where
  roles := d.roles
  roleAssignments := d.roleAssignments.map fun _ assignment => assignmentJson assignment
  idMap := d.idMap
  groupMap := d.groupMap

/-- The roles assigned to an identifier. -/
def rolesOf (d : Declared) (id : Text) : List Text :=
  match d.roleAssignments[id]? with
  | some assignment => assignment.roles
  | none => []

/-- A grant as a list operation. -/
def assignPrincipalToRole (d : Declared) (r p : Text) : Result × Declared :=
  if d.roles.contains r then
    if d.idMap.contains p then
      (.ok { message := "Role assigned successfully" },
        { d with roleAssignments := d.roleAssignments.insert p ⟨d.rolesOf p ++ [r]⟩ })
    else (.ok { message := "Role assignment failed, principal id passed does not exist." }, d)
  else (.ok { message := "Role assignment failed, role id passed does not exist." }, d)

/-- A revocation drops the whole assignment, as the code does. -/
def removePrincipalFromRole (d : Declared) (r p : Text) : Result × Declared :=
  if d.roles.contains r then
    if d.idMap.contains p then
      if d.roleAssignments.contains p then
        (.ok { message := "Role assignment removed" },
          { d with roleAssignments := d.roleAssignments.erase p })
      else (.ok { message := "Role removal failed" }, d)
    else (.ok { message := "Role removal failed, principal id passed does not exist." }, d)
  else (.ok { message := "Role removal failed, role id passed does not exist." }, d)

/-- A call; the operations on roles are the code's own. -/
def perform (d : Declared) : RbacCall → Result × Declared
  | .assignPrincipalToRole r p => d.assignPrincipalToRole r p
  | .removePrincipalFromRole r p => d.removePrincipalFromRole r p
  | call => ((CcfIdentity.perform d.toStore call).1,
      { d with roles := (CcfIdentity.perform d.toStore call).2.roles })

/-- The tables after an event. -/
def step (d : Declared) : Event → Declared
  | .rbac call => (d.perform call).2
  | .governance action =>
    { d with
      idMap := (govern d.toStore action).idMap
      groupMap := (govern d.toStore action).groupMap }

/-- The permissions of a role. -/
def permissionsOf (d : Declared) (r : Text) : Option Permission :=
  d.roles[r]?.bind (·.permissions)

/-- The path is in one list of the role's permissions. -/
def lists (d : Declared) (list : Permission → Option (List Text)) (path r : Text) : Bool :=
  (((d.permissionsOf r).bind list).getD []).any fun element => element == path

/-- The check of a decoded token: the individual's roles first, its denials, then the roles of
the groups, whose denials do not count. -/
def checkToken (d : Declared) (token : JwtPayload) (path : Text) : Except Failure Bool :=
  let individual := token.oid.toList.flatMap d.rolesOf
  let groups := token.groups.flatMap d.rolesOf
  if individual.any (fun r => (d.permissionsOf r).isNone) then .error .typeError
  else if individual.any (d.lists (·.notActions) path) then .ok false
  else if groups.any (fun r => (d.permissionsOf r).isNone) then .error .typeError
  else .ok ((individual ++ groups).any (d.lists (·.actions) path))

/-- The check of a request. -/
def checkAccess (jwt_decode : Option Text → Except Failure JwtPayload) (d : Declared)
    (request : Request) : Except Failure Bool := do
  let token ← decodeToken jwt_decode request
  d.checkToken token request.path

end Declared

end CcfIdentity
