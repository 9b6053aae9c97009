import CcfIdentity.Rbac.Roles

/-!
# Actions of a role

`package/src/rbac.ts:240–321`. Both operations edit a decoded copy of the role and write
it back with `updateRole`, whose answer they drop, under the identifier found in the copy.
-/

open Utf16

namespace CcfIdentity

/-- `package/src/rbac.ts:20–23`. A numeric enumeration admits every number as an argument;
`other` stands for those that name no member. -/
inductive ActionType where
  | allowed
  | denied
  | other
deriving DecidableEq

/-- Lines 258–262: extend the allowed list, or create it. -/
def pushAllowed (perm : Permission) (action : Text) : Except Failure Permission :=
  match perm.actions with
  | some actions => .ok { perm with actions := some (actions ++ [action]) }
  | none => .ok { perm with actions := some [action] }

/-- Lines 277–281: extend the denied list or create it, by whether the allowed list exists. -/
def pushDenied (perm : Permission) (action : Text) : Except Failure Permission :=
  match perm.actions with
  | some _ =>
    match perm.notActions with
    | some notActions => .ok { perm with notActions := some (notActions ++ [action]) }
    | none => .error .typeError
  | none => .ok { perm with notActions := some [action] }

/-- One branch of `addAction`: look for the action in the branch's list, start from two
empty lists where there are no permissions, and push. `none` is an action already there. -/
def editPermissions (list : Permission → Option (List Text))
    (push : Permission → Text → Except Failure Permission)
    (permissions : Option Permission) (action : Text) : Except Failure (Option Permission) :=
  match permissions with
  | some perm =>
    match list perm with
    | some elements =>
      if elements.any (fun element => element == action) then .ok none
      else (push perm action).map some
    | none => .error .typeError
  | none => (push { actions := some [], notActions := some [] } action).map some

/-- Write the edited role back and report; the answer of `updateRole` is dropped. -/
def storePermissions (s : Store) (rd : IRoleDefinition) (permissions : Permission)
    (message : String) : Result × Store :=
  (.ok { message := message }, (updateRole s { rd with permissions := some permissions }).2)

/-- The end of a branch of `addAction`. -/
def storeAddition (s : Store) (rd : IRoleDefinition)
    (edit : Except Failure (Option Permission)) (present added : String) : Result × Store :=
  match edit with
  | .error failure => (.error failure, s)
  | .ok none => (.ok { message := present }, s)
  | .ok (some permissions) => storePermissions s rd permissions added

/-- `package/src/rbac.ts:240–291`. -/
def addAction (s : Store) (role_id action : Text) (actionType : ActionType) : Result × Store :=
  if roleExists s role_id then
    match getRole s role_id, actionType with
    | .inl rd, .allowed =>
      storeAddition s rd (editPermissions (·.actions) pushAllowed rd.permissions action)
        "Action is already defined in the allowed permissions."
        "Action successfully added to allowed permissions"
    | .inl rd, .denied =>
      storeAddition s rd (editPermissions (·.notActions) pushDenied rd.permissions action)
        "Action is already defined in the denied permissions."
        "Action successfully added to denied permissions"
    | _, .other => (.ok { message := "Action type invalid." }, s)
    -- a message cast to a role has no identifier to write it back under
    | .inr _, _ => (.error .typeError, s)
  else
    (.ok { message := "Role does not exist" }, s)

/-- `rd.permissions.xs = rd.permissions.xs.filter(ac => ac === action)` for one of the two
lists, read with `list` and assigned with `put`. -/
def filterPermissions (list : Permission → Option (List Text))
    (put : Permission → List Text → Permission) (permissions : Option Permission)
    (action : Text) : Except Failure Permission :=
  match permissions with
  | some perm =>
    match list perm with
    | some elements => .ok (put perm (elements.filter (fun ac => ac == action)))
    | none => .error .typeError
  | none => .error .typeError

/-- The end of a branch of `removeAction`. -/
def storeRemoval (s : Store) (rd : IRoleDefinition) (edit : Except Failure Permission)
    (removed : String) : Result × Store :=
  match edit with
  | .error failure => (.error failure, s)
  | .ok permissions => storePermissions s rd permissions removed

/-- `package/src/rbac.ts:301–321`. -/
def removeAction (s : Store) (role_id action : Text) (actionType : ActionType) :
    Result × Store :=
  if roleExists s role_id then
    match getRole s role_id, actionType with
    | .inl rd, .allowed =>
      storeRemoval s rd
        (filterPermissions (·.actions) (fun perm actions => { perm with actions := some actions })
          rd.permissions action)
        "Action successfully removed from allowed permissions"
    | .inl rd, .denied =>
      storeRemoval s rd
        (filterPermissions (·.notActions)
          (fun perm notActions => { perm with notActions := some notActions })
          rd.permissions action)
        "Action successfully removed from denied permissions"
    | _, .other => (.ok { message := "Action type invalid." }, s)
    -- a message cast to a role has no permissions to read
    | .inr _, _ => (.error .typeError, s)
  else
    (.ok { message := "Role does not exist" }, s)

/-! ### What the operations write -/

/-- Nothing is written, or `updateRole` writes the role found at `r` with other
permissions. -/
def Edits (s : Store) (r : Text) (s' : Store) : Prop :=
  s' = s ∨ ∃ role permissions, s.roles[r]? = some role ∧
    s' = (updateRole s { role with permissions := some permissions }).2

private theorem getRole_inl {s : Store} {r : Text} {role : IRoleDefinition}
    (h : getRole s r = .inl role) : s.roles[r]? = some role := by
  rw [getRole_eq] at h
  split at h
  · next hr => exact hr.trans (congrArg some (Sum.inl.inj h))
  · cases h

private theorem edits_storeAddition {s : Store} {r : Text} {role : IRoleDefinition}
    (h : s.roles[r]? = some role) (edit : Except Failure (Option Permission))
    (present added : String) : Edits s r (storeAddition s role edit present added).2 := by
  unfold storeAddition
  split
  · exact .inl rfl
  · exact .inl rfl
  · next permissions => exact .inr ⟨role, permissions, h, rfl⟩

private theorem edits_storeRemoval {s : Store} {r : Text} {role : IRoleDefinition}
    (h : s.roles[r]? = some role) (edit : Except Failure Permission) (removed : String) :
    Edits s r (storeRemoval s role edit removed).2 := by
  unfold storeRemoval
  split
  · exact .inl rfl
  · next permissions => exact .inr ⟨role, permissions, h, rfl⟩

/-- `addAction` edits at most the permissions of one role. -/
theorem edits_addAction (s : Store) (r action : Text) (actionType : ActionType) :
    Edits s r (addAction s r action actionType).2 := by
  unfold addAction
  split
  · split
    · next h => exact edits_storeAddition (getRole_inl h) _ _ _
    · next h => exact edits_storeAddition (getRole_inl h) _ _ _
    · exact .inl rfl
    · exact .inl rfl
  · exact .inl rfl

/-- `removeAction` edits at most the permissions of one role. -/
theorem edits_removeAction (s : Store) (r action : Text) (actionType : ActionType) :
    Edits s r (removeAction s r action actionType).2 := by
  unfold removeAction
  split
  · split
    · next h => exact edits_storeRemoval (getRole_inl h) _ _
    · next h => exact edits_storeRemoval (getRole_inl h) _ _
    · exact .inl rfl
    · exact .inl rfl
  · exact .inl rfl

/-- An edit leaves the other tables as they are. -/
theorem Edits.frame {s s' : Store} {r : Text} (h : Edits s r s') :
    s' = { s with roles := s'.roles } := by
  rcases h with rfl | ⟨role, permissions, -, rfl⟩
  · rfl
  · rw [updateRole_store]

/-- An edit neither creates nor removes a role. -/
theorem Edits.roleExists_iff {s s' : Store} {r : Text} (h : Edits s r s') (x : Text) :
    roleExists s' x ↔ roleExists s x := by
  rcases h with rfl | ⟨role, permissions, -, rfl⟩
  · rfl
  · exact roleExists_updateRole s _ x

end CcfIdentity
