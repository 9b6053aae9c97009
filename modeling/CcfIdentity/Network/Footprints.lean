import CcfIdentity.Base.Footprint
import CcfIdentity.Network.Locality
import CcfIdentity.Rbac.Additions
import Mathlib.Data.Set.Insert

/-!
# What a call sees and writes

Every call writes at most one entry of one table. An operation on a role sees that role's
definition only; an operation on an assignment sees the entry, and whether its role and its
principal exist. Where roles are stored under their own identifiers, this bounds both what
the call returns and what it leaves.
-/

open Utf16

namespace CcfIdentity

/-- An entry of one of the four tables. -/
inductive Cell where
  | role (r : Text)
  | assignment (id : Text)
  | principal (id : Text)
  | group (id : Text)

/-- What a cell holds. -/
def Cell.Value : Cell → Type
  | .role _ => Option IRoleDefinition
  | .assignment _ => Option Json
  | .principal _ => Option Text
  | .group _ => Option Text

/-- The content of a cell. -/
def Store.read (s : Store) : (c : Cell) → c.Value
  | .role r => s.roles[r]?
  | .assignment id => s.roleAssignments[id]?
  | .principal id => s.idMap[id]?
  | .group id => s.groupMap[id]?

/-- The role and the principal an operation on an assignment names. -/
def RbacCall.assignment? : RbacCall → Option (Text × Text)
  | .assignPrincipalToRole r p => some (r, p)
  | .removePrincipalFromRole r p => some (r, p)
  | _ => none

/-- The only cell a call may write. -/
def RbacCall.cell : RbacCall → Cell
  | .addRole role => .role role.id
  | .removeRole r => .role r
  | .updateRole role => .role role.id
  | .addAction r _ _ => .role r
  | .removeAction r _ _ => .role r
  | .assignPrincipalToRole _ p => .assignment p
  | .removePrincipalFromRole _ p => .assignment p

/-- The two stores agree on all that the call looks at. -/
structure Sees (call : RbacCall) (s s' : Store) : Prop where
  role : ∀ r ∈ call.roleId?, s'.roles[r]? = s.roles[r]?
  assignment : ∀ r p, call.assignment? = some (r, p) → roleExists s' r = roleExists s r ∧
    principalExists s' p = principalExists s p ∧ s'.roleAssignments[p]? = s.roleAssignments[p]?

/-- A store is the content of its cells. -/
theorem store_ext {s s' : Store} (h : ∀ c, s.read c = s'.read c) : s = s' := by
  apply Store.ext
  · exact Std.ExtTreeMap.ext_getElem? fun r => h (.role r)
  · exact Std.ExtTreeMap.ext_getElem? fun id => h (.assignment id)
  · exact Std.ExtTreeMap.ext_getElem? fun id => h (.principal id)
  · exact Std.ExtTreeMap.ext_getElem? fun id => h (.group id)

/-- A call leaves every other cell alone. -/
theorem read_perform {s : Store} (hkeyed : Keyed s) (call : RbacCall) {c : Cell}
    (hc : c ≠ call.cell) : (perform s call).2.read c = s.read c := by
  cases c with
  | role r =>
    apply role_step hkeyed
    intro x hx heq
    subst heq
    cases call with
    | assignPrincipalToRole r' p | removePrincipalFromRole r' p => cases hx
    | _ =>
      cases Option.mem_def.mp hx
      exact hc rfl
  | assignment id =>
    cases call with
    | assignPrincipalToRole r p =>
      have hid : id ≠ p := fun heq => hc (heq ▸ rfl)
      change (assignPrincipalToRole s r p).2.roleAssignments[id]? = _
      rw [entry_assign, if_neg hid]
      rfl
    | removePrincipalFromRole r p =>
      have hid : id ≠ p := fun heq => hc (heq ▸ rfl)
      change (removePrincipalFromRole s r p).2.roleAssignments[id]? = _
      rw [entry_revoke, if_neg fun h => hid h.1]
      rfl
    | _ =>
      rw [Store.read, roleCall_frame s rfl]
      rfl
  | principal id =>
    rw [Store.read, (perform_frame s call).1]
    rfl
  | group id =>
    rw [Store.read, (perform_frame s call).2]
    rfl

/-! ### Operations on a role -/

section Role

variable {s s' : Store} {r : Text}

private theorem roleExists_of_role (h : s'.roles[r]? = s.roles[r]?) :
    roleExists s' r = roleExists s r := by rw [roleExists_eq, roleExists_eq, h]

private theorem contains_of_role (h : s'.roles[r]? = s.roles[r]?) :
    s'.roles.contains r = s.roles.contains r := by
  rw [Std.ExtTreeMap.contains_eq_isSome_getElem?, Std.ExtTreeMap.contains_eq_isSome_getElem?, h]

private theorem addRole_sees {role : IRoleDefinition} (h : s'.roles[role.id]? = s.roles[role.id]?) :
    (addRole s' role).1 = (addRole s role).1 ∧
      (addRole s' role).2.roles[role.id]? = (addRole s role).2.roles[role.id]? := by
  constructor
  · rw [addRole, addRole, contains_of_role h]
    split_ifs <;> rfl
  · rw [role_addRole, role_addRole, roleExists_of_role h, h]

private theorem removeRole_sees (h : s'.roles[r]? = s.roles[r]?) :
    (removeRole s' r).1 = (removeRole s r).1 ∧
      (removeRole s' r).2.roles[r]? = (removeRole s r).2.roles[r]? := by
  constructor
  · rw [removeRole, removeRole, contains_of_role h]
    split_ifs <;> rfl
  · rw [role_removeRole, role_removeRole, h]

private theorem updateRole_sees (role : IRoleDefinition)
    (h : s'.roles[role.id]? = s.roles[role.id]?) :
    (updateRole s' role).1 = (updateRole s role).1 ∧
      (updateRole s' role).2.roles[role.id]? = (updateRole s role).2.roles[role.id]? := by
  constructor
  · rw [updateRole, updateRole, contains_of_role h]
    split_ifs <;> rfl
  · rw [role_updateRole, role_updateRole, roleExists_of_role h, h]

-- Written back under its own identifier, an edited role is the same in both stores.
private theorem storePermissions_sees {role : IRoleDefinition}
    (h : s'.roles[role.id]? = s.roles[role.id]?) (permissions : Permission) (message : String) :
    (storePermissions s' role permissions message).1 =
        (storePermissions s role permissions message).1 ∧
      (storePermissions s' role permissions message).2.roles[role.id]? =
        (storePermissions s role permissions message).2.roles[role.id]? :=
  ⟨rfl, (updateRole_sees { role with permissions := some permissions } h).2⟩

private theorem addAction_sees (hkeyed : Keyed s) (h : s'.roles[r]? = s.roles[r]?)
    (action : Text) (type : ActionType) :
    (addAction s' r action type).1 = (addAction s r action type).1 ∧
      (addAction s' r action type).2.roles[r]? = (addAction s r action type).2.roles[r]? := by
  cases hrole : s.roles[r]? with
  | none =>
    rw [addAction_absent hrole, addAction_absent (h.trans hrole)]
    exact ⟨rfl, h⟩
  | some role =>
    have hid : role.id = r := hkeyed r role hrole
    subst hid
    rw [addAction_existing hrole, addAction_existing (h.trans hrole)]
    cases type.edit role.permissions action with
    | error failure => exact ⟨rfl, h⟩
    | ok permissions? =>
      cases permissions? with
      | none => exact ⟨rfl, h⟩
      | some permissions => exact storePermissions_sees h permissions _

private theorem removeAction_sees (hkeyed : Keyed s) (h : s'.roles[r]? = s.roles[r]?)
    (action : Text) (type : ActionType) :
    (removeAction s' r action type).1 = (removeAction s r action type).1 ∧
      (removeAction s' r action type).2.roles[r]? = (removeAction s r action type).2.roles[r]? := by
  cases hrole : s.roles[r]? with
  | none =>
    rw [removeAction_absent hrole, removeAction_absent (h.trans hrole)]
    exact ⟨rfl, h⟩
  | some role =>
    have hid : role.id = r := hkeyed r role hrole
    subst hid
    by_cases htype : type = .other
    · subst htype
      rw [removeAction_other hrole, removeAction_other (h.trans hrole)]
      exact ⟨rfl, h⟩
    · rw [removeAction_existing hrole htype, removeAction_existing (h.trans hrole) htype]
      cases filterPermissions type.list type.put role.permissions action with
      | error failure => exact ⟨rfl, h⟩
      | ok permissions => exact storePermissions_sees h permissions _

end Role

/-! ### Operations on an assignment -/

section Assignment

variable {s s' : Store} {r p : Text}

private theorem assign_sees (hrole : roleExists s' r = roleExists s r)
    (hprincipal : principalExists s' p = principalExists s p)
    (hentry : s'.roleAssignments[p]? = s.roleAssignments[p]?) :
    (assignPrincipalToRole s' r p).1 = (assignPrincipalToRole s r p).1 ∧
      (assignPrincipalToRole s' r p).2.roleAssignments[p]? =
        (assignPrincipalToRole s r p).2.roleAssignments[p]? := by
  constructor
  · unfold assignPrincipalToRole
    rw [Std.ExtTreeMap.contains_eq_isSome_getElem?, Std.ExtTreeMap.contains_eq_isSome_getElem?,
      hrole, hprincipal, hentry]
    cases s.roleAssignments[p]? with
    | none =>
      cases Json.parse (grantText r) <;> split_ifs <;> rfl
    | some assignment =>
      simp only [Option.isSome_some, Bool.not_true, Bool.false_eq_true, ↓reduceIte]
      cases pushRole assignment r <;> split_ifs <;> rfl
  · rw [entry_assign, entry_assign, grant, grant, hrole, hprincipal, hentry]

private theorem revoke_sees (hrole : roleExists s' r = roleExists s r)
    (hprincipal : principalExists s' p = principalExists s p)
    (hentry : s'.roleAssignments[p]? = s.roleAssignments[p]?) :
    (removePrincipalFromRole s' r p).1 = (removePrincipalFromRole s r p).1 ∧
      (removePrincipalFromRole s' r p).2.roleAssignments[p]? =
        (removePrincipalFromRole s r p).2.roleAssignments[p]? := by
  constructor
  · unfold removePrincipalFromRole
    rw [Std.ExtTreeMap.contains_eq_isSome_getElem?, Std.ExtTreeMap.contains_eq_isSome_getElem?,
      hrole, hprincipal, hentry]
    split_ifs <;> rfl
  · rw [entry_revoke, entry_revoke, hrole, hprincipal, hentry]

end Assignment

/-- What a call returns and writes depends on what it sees. -/
theorem perform_sees {s s' : Store} (hkeyed : Keyed s) {call : RbacCall} (h : Sees call s s') :
    (perform s' call).1 = (perform s call).1 ∧
      (perform s' call).2.read call.cell = (perform s call).2.read call.cell := by
  cases call with
  | addRole role => exact addRole_sees (h.role role.id rfl)
  | removeRole r => exact removeRole_sees (h.role r rfl)
  | updateRole role => exact updateRole_sees role (h.role role.id rfl)
  | addAction r action type => exact addAction_sees hkeyed (h.role r rfl) action type
  | removeAction r action type => exact removeAction_sees hkeyed (h.role r rfl) action type
  | assignPrincipalToRole r p =>
    obtain ⟨hrole, hprincipal, hentry⟩ := h.assignment r p rfl
    exact assign_sees hrole hprincipal hentry
  | removePrincipalFromRole r p =>
    obtain ⟨hrole, hprincipal, hentry⟩ := h.assignment r p rfl
    exact revoke_sees hrole hprincipal hentry

/-- Every call has a footprint of one cell. -/
theorem perform_bounded (call : RbacCall) :
    Footprint.Bounded Store.read Keyed (perform · call) (Sees call) {call.cell} where
  frame _ hkeyed _ hc := read_perform hkeyed call hc
  result _ _ hkeyed _ h := (perform_sees hkeyed h).1
  written _ _ hkeyed _ h c hc := by
    rw [Set.mem_singleton_iff] at hc
    rw [hc]
    exact (perform_sees hkeyed h).2

end CcfIdentity
