import CcfIdentity.Auth.Decision
import CcfIdentity.Network.Steps

/-!
# Locality of administration

An event elsewhere in the tables does not change what the check does for a token, whether
it answers or throws. `addAction` and `removeAction` write a role back under the
identifier inside it, so the frame needs roles stored under their own identifiers.
-/

open Utf16

namespace CcfIdentity

/-- The event is about a role that no identifier of the token holds, about assignments of
other identifiers, or about membership. -/
def Elsewhere (s : Store) (token : JwtPayload) : Event → Prop
  | .rbac (.assignPrincipalToRole _ p) => p ∉ token.identifiers
  | .rbac (.removePrincipalFromRole _ p) => p ∉ token.identifiers
  | .rbac call => ∀ r ∈ call.roleId?, ∀ id ∈ token.identifiers, ¬ Holds s id r
  | .governance _ => True

/-- An operation on the role table leaves the definitions of all other roles alone. -/
theorem role_step {s : Store} (hkeyed : Keyed s) {call : RbacCall} {x : Text}
    (hother : ∀ r ∈ call.roleId?, x ≠ r) : (perform s call).2.roles[x]? = s.roles[x]? := by
  have hedits : ∀ {r s'}, Edits s r s' → x ≠ r → s'.roles[x]? = s.roles[x]? := by
    rintro r s' (rfl | ⟨role, permissions, hrole, rfl⟩) hx
    · rfl
    · have hid : role.id = r := hkeyed r role hrole
      rw [role_updateRole, if_neg fun h => hx (h.1.trans hid)]
  cases call with
  | addRole role => rw [perform, role_addRole, if_neg fun h => hother role.id rfl h.1]
  | removeRole r => rw [perform, role_removeRole, if_neg (hother r rfl)]
  | updateRole role => rw [perform, role_updateRole, if_neg fun h => hother role.id rfl h.1]
  | assignPrincipalToRole r p => rw [perform, assign_roles]
  | removePrincipalFromRole r p => rw [perform, revoke_roles]
  | addAction r a type => exact hedits (edits_addAction s r a type) (hother r rfl)
  | removeAction r a type => exact hedits (edits_removeAction s r a type) (hother r rfl)

/-- An event elsewhere leaves the token's entries alone. -/
theorem entry_elsewhere {s : Store} {token : JwtPayload} {e : Event} (h : Elsewhere s token e)
    {id : Text} (hid : id ∈ token.identifiers) :
    (step s e).roleAssignments[id]? = s.roleAssignments[id]? := by
  cases e with
  | governance action => rw [step, (govern_frame s action).2]
  | rbac call =>
    cases call with
    | assignPrincipalToRole r p =>
      have hne : id ≠ p := fun heq => h (heq ▸ hid)
      rw [step, perform, entry_assign, if_neg hne]
    | removePrincipalFromRole r p =>
      have hne : id ≠ p := fun heq => h (heq ▸ hid)
      rw [step, perform, entry_revoke, if_neg fun heffective => hne heffective.1]
    | _ => rw [step, roleCall_frame s rfl]

/-- An event elsewhere leaves the definitions of the token's roles alone. -/
theorem role_elsewhere {s : Store} (hkeyed : Keyed s) {token : JwtPayload} {e : Event}
    (h : Elsewhere s token e) {id r : Text} (hid : id ∈ token.identifiers)
    (hr : Holds s id r) : (step s e).roles[r]? = s.roles[r]? := by
  cases e with
  | governance action => rw [step, (govern_frame s action).1]
  | rbac call =>
    refine role_step hkeyed fun x hx heq => ?_
    subst heq
    cases call with
    | assignPrincipalToRole r p | removePrincipalFromRole r p => cases hx
    | _ => exact h r hx id hid hr

/-- No event elsewhere changes the outcome of a request, whatever the event reports. -/
theorem checkAccess_elsewhere (jwt_decode : Option Text → Except Failure JwtPayload)
    {s : Store} (hs : Runs.Reachable step Store.empty s) (request : Request) (e : Event)
    (h : ∀ token, decodeToken jwt_decode request = .ok token → Elsewhere s token e) :
    checkAccess jwt_decode (step s e) request = checkAccess jwt_decode s request := by
  have hkeyed : Keyed s := keyed_reachable hs
  cases htoken : decodeToken jwt_decode request with
  | error failure =>
    rw [checkAccess, checkAccess, htoken]
    rfl
  | ok token =>
    have hlocal : Elsewhere s token e := h token htoken
    rw [checkAccess_of_decodeToken s htoken, checkAccess_of_decodeToken (step s e) htoken]
    refine (checkToken_congr request.path (fun id hid => ?_) fun id hid role hrole => ?_).symm
    · rw [getRolesForPrincipal_eq, getRolesForPrincipal_eq, entry_elsewhere hlocal hid]
    · cases role with
      | str r =>
        have hsame := role_elsewhere hkeyed hlocal hid hrole
        rw [rolePermissions, rolePermissions, getRole_eq, getRole_eq, hsame]
      | _ => rfl

/-- A principal holds the first of two roles. -/
def readerAndWriter : List Event :=
  [.governance (.setServicePrincipal (text "u") (text "user")),
    .rbac (.addRole ⟨text "reader", text "Reader", some ⟨some [text "/app/log"], some []⟩⟩),
    .rbac (.addRole ⟨text "writer", text "Writer", none⟩),
    .rbac (.assignPrincipalToRole (text "reader") (text "u"))]

/-- Removing the second role leaves the principal's access as it was. -/
theorem readerAndWriter_local :
    checkAccess (fun _ => .ok ⟨some (text "u"), none⟩)
        (step (Runs.run step Store.empty readerAndWriter) (.rbac (.removeRole (text "writer"))))
        (bearerRequest (text "/app/log")) =
      checkAccess (fun _ => .ok ⟨some (text "u"), none⟩)
        (Runs.run step Store.empty readerAndWriter) (bearerRequest (text "/app/log")) := by
  refine checkAccess_elsewhere _ (Runs.reachable_run step _ _) _ _ fun token htoken => ?_
  rw [decodeToken_bearerRequest] at htoken
  cases htoken
  intro r hr id hid hholds
  have hu : id = text "u" := by simpa [JwtPayload.identifiers, JwtPayload.groups] using hid
  have hw : r = text "writer" := (Option.some.inj hr).symm
  have hlisted : rolesOf (Runs.run step Store.empty readerAndWriter) (text "u") =
      [.str (text "reader")] := rfl
  have hother : text "writer" ≠ text "reader" := by decide
  rw [hu, hw, Holds, hlisted] at hholds
  simp [hother] at hholds

end CcfIdentity
