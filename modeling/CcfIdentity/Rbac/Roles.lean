import CcfIdentity.Store.Tables

/-!
# Roles

The role table's own operations, `package/src/rbac.ts:33–98` and `:176–184`. A call takes
the store and returns its result with the store it leaves, also where it throws.
-/

open Utf16

namespace CcfIdentity

/-- `package/src/rbac.ts:33–40`. -/
def addRole (s : Store) (role : IRoleDefinition) : Result × Store :=
  if s.roles.contains role.id then
    (.ok { message := "Creation of role failed, role already exists." }, s)
  else
    (.ok { message := "Role created successfully." },
      { s with roles := s.roles.insert role.id role })

/-- `package/src/rbac.ts:48–54`. -/
def removeRole (s : Store) (roleId : Text) : Result × Store :=
  if s.roles.contains roleId then
    (.ok { message := "Role removed successfully." },
      { s with roles := s.roles.erase roleId })
  else
    (.ok { message := "Role does not exist and cannot be deleted." }, s)

/-- `package/src/rbac.ts:63–69`. -/
def updateRole (s : Store) (role : IRoleDefinition) : Result × Store :=
  if s.roles.contains role.id then
    (.ok { message := "Role updated successfully." },
      { s with roles := s.roles.insert role.id role })
  else
    (.ok { message := "Role does not exist and cannot be updated." }, s)

/-- `package/src/rbac.ts:77–85`. -/
def getRole (s : Store) (roleId : Text) : IRoleDefinition ⊕ IdentityResponse :=
  match (if s.roles.contains roleId then s.roles[roleId]? else none) with
  | some role => .inl role
  | none => .inr { message := "Role id passed does not exist." }

/-- `package/src/rbac.ts:93–98`. -/
def roleExists (s : Store) (roleId : Text) : Bool :=
  if s.roles.contains roleId then true else false

/-- `package/src/rbac.ts:176–184`. -/
def getPermissionsForRole (s : Store) (roleId : Text) : Permission ⊕ IdentityResponse :=
  match (if roleExists s roleId then s.roles[roleId]?.bind (·.permissions) else none) with
  | some permissions => .inl permissions
  | none => .inr { message := "No permissions found in role." }

/-- A role exists exactly when a look-up finds it. -/
theorem roleExists_eq (s : Store) (r : Text) : roleExists s r = s.roles[r]?.isSome := by
  rw [roleExists, Std.ExtTreeMap.contains_eq_isSome_getElem?]
  cases s.roles[r]? <;> rfl

/-- A role exists exactly when the table has a definition for it. -/
theorem roleExists_iff (s : Store) (r : Text) :
    roleExists s r = true ↔ ∃ role, s.roles[r]? = some role := by
  rw [roleExists_eq, Option.isSome_iff_exists]

/-- An absent role is answered with a message. -/
theorem getRole_eq (s : Store) (r : Text) :
    getRole s r = match s.roles[r]? with
      | some role => .inl role
      | none => .inr { message := "Role id passed does not exist." } := by
  rw [getRole, Std.ExtTreeMap.contains_eq_isSome_getElem?]
  cases s.roles[r]? <;> rfl

/-- `addRole` writes the role table only, and only where the identifier is new. -/
theorem addRole_store (s : Store) (role : IRoleDefinition) :
    (addRole s role).2 = { s with
      roles := if s.roles.contains role.id then s.roles else s.roles.insert role.id role } := by
  unfold addRole
  split <;> rfl

/-- `removeRole` leaves the role table without the role, and the assignments as they are. -/
theorem removeRole_store (s : Store) (r : Text) :
    (removeRole s r).2 = { s with roles := s.roles.erase r } := by
  unfold removeRole
  split
  · rfl
  · next h => rw [Table.delete_absent _ _ h]

/-- `updateRole` writes the role table only, and only where the identifier is taken. -/
theorem updateRole_store (s : Store) (role : IRoleDefinition) :
    (updateRole s role).2 = { s with
      roles := if s.roles.contains role.id then s.roles.insert role.id role else s.roles } := by
  unfold updateRole
  split <;> rfl

/-! ### What the operations leave in the role table -/

/-- The definitions after `addRole`. -/
theorem role_addRole (s : Store) (role : IRoleDefinition) (r : Text) :
    (addRole s role).2.roles[r]? =
      if r = role.id ∧ ¬ roleExists s r then some role else s.roles[r]? := by
  rw [addRole_store]
  by_cases hr : r = role.id
  · subst hr
    by_cases hnew : s.roles.contains role.id <;> simp [roleExists, hnew]
  · by_cases hnew : s.roles.contains role.id <;>
      simp [hr, Ne.symm hr, hnew, Table.getElem?_set]

/-- The definitions after `removeRole`. -/
theorem role_removeRole (s : Store) (r₀ r : Text) :
    (removeRole s r₀).2.roles[r]? = if r = r₀ then none else s.roles[r]? := by
  rw [removeRole_store, Table.getElem?_delete]
  simp only [eq_comm]

/-- The definitions after `updateRole`. -/
theorem role_updateRole (s : Store) (role : IRoleDefinition) (r : Text) :
    (updateRole s role).2.roles[r]? =
      if r = role.id ∧ roleExists s r then some role else s.roles[r]? := by
  rw [updateRole_store]
  by_cases hr : r = role.id
  · subst hr
    by_cases hold : s.roles.contains role.id <;> simp [roleExists, hold]
  · by_cases hold : s.roles.contains role.id <;>
      simp [hr, Ne.symm hr, hold, Table.getElem?_set]

/-- `addRole` adds its role to the existing ones. -/
theorem roleExists_addRole (s : Store) (role : IRoleDefinition) (r : Text) :
    roleExists (addRole s role).2 r ↔ roleExists s r ∨ r = role.id := by
  rw [roleExists_eq, role_addRole]
  by_cases hadded : r = role.id ∧ ¬ roleExists s r
  · rw [if_pos hadded]
    exact ⟨fun _ => .inr hadded.1, fun _ => rfl⟩
  · rw [if_neg hadded, ← roleExists_eq]
    constructor
    · exact .inl
    · rintro (hr | hr)
      · exact hr
      · exact by_contra fun hexists => hadded ⟨hr, hexists⟩

/-- `removeRole` takes one role away from the existing ones. -/
theorem roleExists_removeRole (s : Store) (r₀ r : Text) :
    roleExists (removeRole s r₀).2 r ↔ roleExists s r ∧ r ≠ r₀ := by
  rw [roleExists_eq, role_removeRole]
  by_cases hr : r = r₀ <;> simp [hr, roleExists_eq]

/-- `updateRole` neither creates nor removes a role. -/
theorem roleExists_updateRole (s : Store) (role : IRoleDefinition) (r : Text) :
    roleExists (updateRole s role).2 r ↔ roleExists s r := by
  rw [roleExists_eq, role_updateRole]
  by_cases hupdated : r = role.id ∧ roleExists s r
  · rw [if_pos hupdated]
    exact ⟨fun _ => hupdated.2, fun _ => rfl⟩
  · rw [if_neg hupdated, roleExists_eq]

end CcfIdentity
