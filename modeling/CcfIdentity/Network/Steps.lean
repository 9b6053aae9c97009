import CcfIdentity.Base.Runs
import CcfIdentity.Rbac.Actions
import CcfIdentity.Rbac.Assignments

/-!
# Runs of a network

Two independent writers share the store: callers of the package's operations and
governance. An event is one call or one action, executed as a whole; a call that throws
leaves the store it found. Runs start from the empty tables unless said otherwise.
-/

open Utf16

namespace CcfIdentity

/-- A call of one of the package's operations that write. -/
inductive RbacCall where
  | addRole (role : IRoleDefinition)
  | removeRole (roleId : Text)
  | updateRole (role : IRoleDefinition)
  | assignPrincipalToRole (roleId principalId : Text)
  | removePrincipalFromRole (roleId principalId : Text)
  | addAction (role_id action : Text) (actionType : ActionType)
  | removeAction (role_id action : Text) (actionType : ActionType)

/-- An action of the constitution that writes a membership table. -/
inductive GovernanceAction where
  | setServicePrincipal (id name : Text)
  | removeServicePrincipal (id : Text)
  | setGroupId (id name : Text)
  | removeGroupId (id : Text)

/-- One step of either writer. -/
inductive Event where
  | rbac (call : RbacCall)
  | governance (action : GovernanceAction)

/-- What a call returns or throws, and the store it leaves. -/
def perform (s : Store) : RbacCall → Result × Store
  | .addRole role => addRole s role
  | .removeRole roleId => removeRole s roleId
  | .updateRole role => updateRole s role
  | .assignPrincipalToRole roleId principalId => assignPrincipalToRole s roleId principalId
  | .removePrincipalFromRole roleId principalId => removePrincipalFromRole s roleId principalId
  | .addAction role_id action actionType => addAction s role_id action actionType
  | .removeAction role_id action actionType => removeAction s role_id action actionType

/-- The store an accepted governance action leaves. -/
def govern (s : Store) : GovernanceAction → Store
  | .setServicePrincipal id name => setServicePrincipal s id name
  | .removeServicePrincipal id => removeServicePrincipal s id
  | .setGroupId id name => setGroupId s id name
  | .removeGroupId id => removeGroupId s id

/-- The store after an event. -/
def step (s : Store) : Event → Store
  | .rbac call => (perform s call).2
  | .governance action => govern s action

/-- No roles and no assignments yet, with any principals and groups registered. -/
def Store.enrolled (idMap groupMap : Table Text) : Store := ⟨∅, ∅, idMap, groupMap⟩

/-- Nobody holds a role in the empty store. -/
theorem holds_empty (id r : Text) : ¬ Holds Store.empty id r := by
  simp [Holds, rolesOf_eq, Store.empty]

/-! ### What each writer leaves alone -/

/-- Governance writes neither roles nor assignments. -/
theorem govern_frame (s : Store) (action : GovernanceAction) :
    (govern s action).roles = s.roles ∧
      (govern s action).roleAssignments = s.roleAssignments := by
  cases action <;> exact ⟨rfl, rfl⟩

/-- The package never writes the membership tables. -/
theorem perform_frame (s : Store) (call : RbacCall) :
    (perform s call).2.idMap = s.idMap ∧ (perform s call).2.groupMap = s.groupMap := by
  cases call with
  | addRole role => rw [perform, addRole_store]; exact ⟨rfl, rfl⟩
  | removeRole r => rw [perform, removeRole_store]; exact ⟨rfl, rfl⟩
  | updateRole role => rw [perform, updateRole_store]; exact ⟨rfl, rfl⟩
  | assignPrincipalToRole r p => rw [perform, assignPrincipalToRole_store]; exact ⟨rfl, rfl⟩
  | removePrincipalFromRole r p => rw [perform, removePrincipalFromRole_store]; exact ⟨rfl, rfl⟩
  | addAction r a type => rw [perform, (edits_addAction s r a type).frame]; exact ⟨rfl, rfl⟩
  | removeAction r a type => rw [perform, (edits_removeAction s r a type).frame]; exact ⟨rfl, rfl⟩

/-- The role an operation on the role table names. -/
def RbacCall.roleId? : RbacCall → Option Text
  | .addRole role => some role.id
  | .removeRole r => some r
  | .updateRole role => some role.id
  | .addAction r _ _ => some r
  | .removeAction r _ _ => some r
  | .assignPrincipalToRole _ _ => none
  | .removePrincipalFromRole _ _ => none

/-- Operations on the role table leave the assignments alone. -/
theorem roleCall_frame (s : Store) {call : RbacCall} (h : call.roleId?.isSome) :
    (perform s call).2.roleAssignments = s.roleAssignments := by
  cases call with
  | addRole role => rw [perform, addRole_store]
  | removeRole r => rw [perform, removeRole_store]
  | updateRole role => rw [perform, updateRole_store]
  | addAction r a type => rw [perform, (edits_addAction s r a type).frame]
  | removeAction r a type => rw [perform, (edits_removeAction s r a type).frame]
  | assignPrincipalToRole r p | removePrincipalFromRole r p => cases h

/-- A grant leaves the roles alone. -/
theorem assign_roles (s : Store) (r p : Text) :
    (assignPrincipalToRole s r p).2.roles = s.roles := by
  rw [assignPrincipalToRole_store]

/-- A revocation leaves the roles alone. -/
theorem revoke_roles (s : Store) (r p : Text) :
    (removePrincipalFromRole s r p).2.roles = s.roles := by
  rw [removePrincipalFromRole_store]

/-- Equal role tables have the same roles. -/
theorem roleExists_congr {s s' : Store} (h : s'.roles = s.roles) (r : Text) :
    roleExists s' r = roleExists s r := by
  rw [roleExists, roleExists, h]

/-- Equal tables of principals have the same principals. -/
theorem principalExists_congr {s s' : Store} (h : s'.idMap = s.idMap) (p : Text) :
    principalExists s' p = principalExists s p := by
  rw [principalExists, principalExists, h]

/-- Only the call that removes a role makes it cease to exist. -/
theorem roleExists_kept {s : Store} {e : Event} {r : Text} (h : roleExists s r)
    (hremove : e ≠ .rbac (.removeRole r)) : roleExists (step s e) r := by
  cases e with
  | governance action => rwa [step, roleExists_congr (govern_frame s action).1]
  | rbac call =>
    cases call with
    | addRole role => exact (roleExists_addRole s role r).mpr (.inl h)
    | removeRole r₀ =>
      exact (roleExists_removeRole s r₀ r).mpr ⟨h, fun heq => hremove (heq ▸ rfl)⟩
    | updateRole role => exact (roleExists_updateRole s role r).mpr h
    | assignPrincipalToRole r₀ p => rwa [step, perform, roleExists_congr (assign_roles s r₀ p)]
    | removePrincipalFromRole r₀ p => rwa [step, perform, roleExists_congr (revoke_roles s r₀ p)]
    | addAction r₀ a type => exact ((edits_addAction s r₀ a type).roleExists_iff r).mpr h
    | removeAction r₀ a type => exact ((edits_removeAction s r₀ a type).roleExists_iff r).mpr h

/-- Only the call that adds a role makes it exist. -/
theorem roleExists_old {s : Store} {e : Event} {r : Text} (h : roleExists (step s e) r)
    (hadd : ∀ role, e = .rbac (.addRole role) → r ≠ role.id) : roleExists s r := by
  cases e with
  | governance action => rwa [step, roleExists_congr (govern_frame s action).1] at h
  | rbac call =>
    cases call with
    | addRole role => exact ((roleExists_addRole s role r).mp h).resolve_right (hadd role rfl)
    | removeRole r₀ => exact ((roleExists_removeRole s r₀ r).mp h).1
    | updateRole role => exact (roleExists_updateRole s role r).mp h
    | assignPrincipalToRole r₀ p =>
      rwa [step, perform, roleExists_congr (assign_roles s r₀ p)] at h
    | removePrincipalFromRole r₀ p =>
      rwa [step, perform, roleExists_congr (revoke_roles s r₀ p)] at h
    | addAction r₀ a type => exact ((edits_addAction s r₀ a type).roleExists_iff r).mp h
    | removeAction r₀ a type => exact ((edits_removeAction s r₀ a type).roleExists_iff r).mp h

/-- Only its own removal by governance makes a principal cease to exist. -/
theorem principalExists_kept {s : Store} {e : Event} {p : Text} (h : principalExists s p)
    (hremove : e ≠ .governance (.removeServicePrincipal p)) : principalExists (step s e) p := by
  cases e with
  | rbac call => rwa [step, principalExists_congr (perform_frame s call).1]
  | governance action =>
    cases action with
    | setServicePrincipal id name => exact (principalExists_set s id name p).mpr (.inl h)
    | removeServicePrincipal id =>
      exact (principalExists_remove s id p).mpr ⟨h, fun heq => hremove (heq ▸ rfl)⟩
    | setGroupId id name | removeGroupId id => exact h

/-! ### Roles are stored under their own identifiers -/

/-- Every role is stored under the identifier inside it. -/
def Keyed (s : Store) : Prop :=
  ∀ (r : Text) (role : IRoleDefinition), s.roles[r]? = some role → role.id = r

private theorem keyed_updateRole {s : Store} (h : Keyed s) (role : IRoleDefinition) :
    Keyed (updateRole s role).2 := by
  intro r stored hstored
  rw [role_updateRole] at hstored
  split at hstored
  · next hr =>
    cases hstored
    exact hr.1.symm
  · exact h r stored hstored

private theorem keyed_edits {s s' : Store} {r : Text} (h : Keyed s) (hedit : Edits s r s') :
    Keyed s' := by
  rcases hedit with rfl | ⟨role, permissions, -, rfl⟩
  · exact h
  · exact keyed_updateRole h _

/-- No event stores a role under another's identifier. -/
theorem keyed_step (s : Store) (e : Event) (h : Keyed s) : Keyed (step s e) := by
  have hframe : ∀ s' : Store, s'.roles = s.roles → Keyed s' := by
    intro s' hs' r role hr
    exact h r role (hs' ▸ hr)
  cases e with
  | governance action => exact hframe _ (govern_frame s action).1
  | rbac call =>
    cases call with
    | addRole role =>
      intro r stored hstored
      rw [step, perform, role_addRole] at hstored
      split at hstored
      · next hr =>
        cases hstored
        exact hr.1.symm
      · exact h r stored hstored
    | removeRole r₀ =>
      intro r stored hstored
      rw [step, perform, role_removeRole] at hstored
      split at hstored
      · cases hstored
      · exact h r stored hstored
    | updateRole role => exact keyed_updateRole h role
    | assignPrincipalToRole r p => exact hframe _ (assign_roles s r p)
    | removePrincipalFromRole r p => exact hframe _ (revoke_roles s r p)
    | addAction r a type => exact keyed_edits h (edits_addAction s r a type)
    | removeAction r a type => exact keyed_edits h (edits_removeAction s r a type)

/-- In every reachable state the roles are stored under their own identifiers. -/
theorem keyed_reachable {s : Store} (h : Runs.Reachable step Store.empty s) : Keyed s := by
  refine Runs.invariant keyed_step (fun r role hr => ?_) h
  simp [Store.empty] at hr

end CcfIdentity
