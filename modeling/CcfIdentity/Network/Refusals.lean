import CcfIdentity.Network.Steps
import CcfIdentity.Rbac.Additions

/-!
# Refused calls

A call writes one table once, as the last thing it does before it reports success. So a call
that reports anything else, or throws on the way, leaves the tables as it found them.
-/

open Utf16

namespace CcfIdentity

/-- The message of a call that did what it was asked to; there is none for a number that is
no action type. -/
def RbacCall.success? : RbacCall → Option String
  | .addRole _ => some "Role created successfully."
  | .removeRole _ => some "Role removed successfully."
  | .updateRole _ => some "Role updated successfully."
  | .assignPrincipalToRole _ _ => some "Role assigned successfully"
  | .removePrincipalFromRole _ _ => some "Role assignment removed"
  | .addAction _ _ .allowed => some "Action successfully added to allowed permissions"
  | .addAction _ _ .denied => some "Action successfully added to denied permissions"
  | .removeAction _ _ .allowed => some "Action successfully removed from allowed permissions"
  | .removeAction _ _ .denied => some "Action successfully removed from denied permissions"
  | .addAction _ _ .other => none
  | .removeAction _ _ .other => none

/-- The call reported success or left the store alone. -/
def SucceedsOrKeeps (s : Store) (success : Option String) (outcome : Result × Store) : Prop :=
  (∃ message ∈ success, outcome.1 = .ok { message := message }) ∨ outcome.2 = s

private theorem addRole_outcome (s : Store) (role : IRoleDefinition) :
    SucceedsOrKeeps s (RbacCall.addRole role).success? (addRole s role) := by
  unfold addRole
  split
  · exact .inr rfl
  · exact .inl ⟨_, rfl, rfl⟩

private theorem removeRole_outcome (s : Store) (r : Text) :
    SucceedsOrKeeps s (RbacCall.removeRole r).success? (removeRole s r) := by
  unfold removeRole
  split
  · exact .inl ⟨_, rfl, rfl⟩
  · exact .inr rfl

private theorem updateRole_outcome (s : Store) (role : IRoleDefinition) :
    SucceedsOrKeeps s (RbacCall.updateRole role).success? (updateRole s role) := by
  unfold updateRole
  split
  · exact .inl ⟨_, rfl, rfl⟩
  · exact .inr rfl

-- The text is parsed, or the role pushed onto the copy, before the table is written.
private theorem assign_outcome (s : Store) (r p : Text) :
    SucceedsOrKeeps s (RbacCall.assignPrincipalToRole r p).success?
      (assignPrincipalToRole s r p) := by
  unfold assignPrincipalToRole
  split
  · split
    · split
      · exact .inl ⟨_, rfl, rfl⟩
      · exact .inr rfl
    · split
      · split
        · exact .inl ⟨_, rfl, rfl⟩
        · exact .inr rfl
      · exact .inr rfl
  · split_ifs <;> exact .inr rfl

private theorem revoke_outcome (s : Store) (r p : Text) :
    SucceedsOrKeeps s (RbacCall.removePrincipalFromRole r p).success?
      (removePrincipalFromRole s r p) := by
  unfold removePrincipalFromRole
  split
  · split
    · exact .inl ⟨_, rfl, rfl⟩
    · exact .inr rfl
  · split_ifs <;> exact .inr rfl

private theorem storeAddition_outcome (s : Store) (rd : IRoleDefinition)
    (edit : Except Failure (Option Permission)) (present added : String) :
    SucceedsOrKeeps s (some added) (storeAddition s rd edit present added) := by
  unfold storeAddition
  split
  · exact .inr rfl
  · exact .inr rfl
  · exact .inl ⟨added, rfl, rfl⟩

private theorem storeRemoval_outcome (s : Store) (rd : IRoleDefinition)
    (edit : Except Failure Permission) (removed : String) :
    SucceedsOrKeeps s (some removed) (storeRemoval s rd edit removed) := by
  unfold storeRemoval
  split
  · exact .inr rfl
  · exact .inl ⟨removed, rfl, rfl⟩

private theorem addAction_outcome (s : Store) (r action : Text) (type : ActionType) :
    SucceedsOrKeeps s (RbacCall.addAction r action type).success? (addAction s r action type) := by
  unfold addAction
  split
  · split
    · exact storeAddition_outcome s _ _ _ _
    · exact storeAddition_outcome s _ _ _ _
    · exact .inr rfl
    · exact .inr rfl
  · exact .inr rfl

private theorem removeAction_outcome (s : Store) (r action : Text) (type : ActionType) :
    SucceedsOrKeeps s (RbacCall.removeAction r action type).success?
      (removeAction s r action type) := by
  unfold removeAction
  split
  · split
    · exact storeRemoval_outcome s _ _ _
    · exact storeRemoval_outcome s _ _ _
    · exact .inr rfl
    · exact .inr rfl
  · exact .inr rfl

/-- Every call succeeds or leaves the store alone. -/
theorem perform_outcome (s : Store) (call : RbacCall) :
    SucceedsOrKeeps s call.success? (perform s call) := by
  cases call with
  | addRole role => exact addRole_outcome s role
  | removeRole r => exact removeRole_outcome s r
  | updateRole role => exact updateRole_outcome s role
  | assignPrincipalToRole r p => exact assign_outcome s r p
  | removePrincipalFromRole r p => exact revoke_outcome s r p
  | addAction r action type => exact addAction_outcome s r action type
  | removeAction r action type => exact removeAction_outcome s r action type

/-- A call that reports anything but its success, or throws, changes nothing. -/
theorem perform_refused (s : Store) (call : RbacCall)
    (h : ∀ message ∈ call.success?, (perform s call).1 ≠ .ok { message := message }) :
    (perform s call).2 = s := by
  rcases perform_outcome s call with ⟨message, hmessage, hreports⟩ | hkept
  · exact absurd hreports (h message hmessage)
  · exact hkept

/-- A denied action added to a role without a denied list: the call throws with the role
already fetched, and nothing has changed. -/
theorem halfRoles_kept :
    (perform halfRoles (.addAction (text "1") (text "/app/put") .denied)).2 = halfRoles := by
  apply perform_refused
  intro message _
  have hthrows : (perform halfRoles (.addAction (text "1") (text "/app/put") .denied)).1 =
      .error .typeError := rfl
  rw [hthrows]
  simp

end CcfIdentity
