import CcfIdentity.Auth.Policy
import CcfIdentity.Network.Grants

/-!
# Where access comes from

The check reads assignments and roles and no membership table. A grant therefore outlives
the membership it was made under: whoever is let in is a member now, or was a registered
principal when granted the role and has been removed by governance since.
-/

open Utf16

namespace CcfIdentity

/-- The identifier is a registered principal or group. -/
def Member (s : Store) (id : Text) : Prop := principalExists s id ∨ groupExists s id

/-- The identifier holds a role that lists the path among its actions. -/
def HasAccess (s : Store) (id path : Text) : Prop :=
  ∃ r, Holds s id r ∧ (policy s).allows r path

/-- Whoever is let in owes it to an identifier that is a member. -/
def AccessNeedsMembership (s : Store) : Prop :=
  ∀ jwt_decode request token, decodeToken jwt_decode request = .ok token →
    checkAccess jwt_decode s request = .ok true →
    ∃ id ∈ token.identifiers, HasAccess s id request.path ∧ Member s id

/-- In the course of the events a grant made the identifier, a registered principal then,
hold the role, and governance removed it later. -/
def RemovedSinceGrant (events : List Event) (id r : Text) : Prop :=
  ∃ before r' between,
    before ++ [.rbac (.assignPrincipalToRole r' id)] ++ between ++
      [.governance (.removeServicePrincipal id)] <+: events ∧
    principalExists (Runs.run step Store.empty before) id ∧
    ¬ Holds (Runs.run step Store.empty before) id r ∧
    Holds (assignPrincipalToRole (Runs.run step Store.empty before) r' id).2 id r

/-- The holder of a role is a registered principal, or was one when granted the role and has
been removed since. -/
theorem holder_registered_or_removed {events : List Event} {id r : Text}
    (h : Holds (Runs.run step Store.empty events) id r) :
    principalExists (Runs.run step Store.empty events) id ∨ RemovedSinceGrant events id r := by
  obtain ⟨before, e, ⟨rest, rfl⟩, hnot, hyes⟩ :=
    Runs.exists_switch (Q := fun s => Holds s id r) (holds_empty id r) h
  obtain ⟨r', rfl, hprincipal⟩ := registered_of_new_holding hnot hyes
  apply or_iff_not_imp_left.mpr
  intro hremoved
  rw [Runs.run_append] at hremoved
  have hgranted : ¬ ¬ principalExists
      (Runs.run step Store.empty (before ++ [.rbac (.assignPrincipalToRole r' id)])) id := by
    rw [Runs.run_concat, step, principalExists_congr (perform_frame _ _).1]
    exact not_not_intro hprincipal
  obtain ⟨between, e, ⟨tail, htail⟩, hthen, hgone⟩ :=
    Runs.exists_switch (Q := fun s : Store => ¬ principalExists s id) hgranted hremoved
  have he : e = .governance (.removeServicePrincipal id) :=
    by_contra fun hne => hgone (principalExists_kept (not_not.mp hthen) hne)
  subst he
  refine ⟨before, r', between, ⟨tail, ?_⟩, hprincipal, hnot, hyes⟩
  rw [← htail]
  simp only [List.append_assoc]

/-- Whoever is let in owes it to a role of an identifier that is a member, or that was a
registered principal when granted the role and has been removed by governance since. -/
theorem access_member_or_removed (events : List Event)
    (jwt_decode : Option Text → Except Failure JwtPayload) (request : Request)
    (token : JwtPayload) (htoken : decodeToken jwt_decode request = .ok token)
    (hyes : checkAccess jwt_decode (Runs.run step Store.empty events) request = .ok true) :
    ∃ id ∈ token.identifiers, ∃ r, Holds (Runs.run step Store.empty events) id r ∧
      (policy (Runs.run step Store.empty events)).allows r request.path ∧
      (Member (Runs.run step Store.empty events) id ∨ RemovedSinceGrant events id r) := by
  rw [checkAccess_of_decodeToken _ htoken] at hyes
  obtain ⟨id, hid, role, hrole, hlists⟩ := checkToken_true hyes
  obtain ⟨r, rfl, hallows⟩ := (lists_iff _ _ _ _).mp hlists
  refine ⟨id, hid, r, hrole, hallows, ?_⟩
  exact (holder_registered_or_removed hrole).imp_left .inl

/-- A principal is granted a role and then removed by governance. -/
def removedMember : List Event :=
  [.rbac (.addRole ⟨text "reader", text "Reader", some ⟨some [text "/app/log"], some []⟩⟩),
    .governance (.setServicePrincipal (text "u") (text "user")),
    .rbac (.assignPrincipalToRole (text "reader") (text "u")),
    .governance (.removeServicePrincipal (text "u"))]

/-- The removed principal is still let in, under an identifier no table registers. -/
theorem removedMember_has_access :
    ¬ AccessNeedsMembership (Runs.run step Store.empty removedMember) := by
  intro h
  have htoken := decodeToken_bearerRequest ⟨some (text "u"), none⟩ (text "/app/log")
  obtain ⟨id, hid, -, hmember⟩ := h _ _ _ htoken rfl
  have hu : id = text "u" := by simpa [JwtPayload.identifiers, JwtPayload.groups] using hid
  subst hu
  have hprincipal : principalExists (Runs.run step Store.empty removedMember) (text "u") =
      false := rfl
  have hgroup : groupExists (Runs.run step Store.empty removedMember) (text "u") = false := rfl
  simp [Member, hprincipal, hgroup] at hmember

/-- A removed principal's access, traced back to its grant and its removal. -/
theorem removedMember_traced :
    ∃ id ∈ JwtPayload.identifiers ⟨some (text "u"), none⟩,
      ∃ r, Holds (Runs.run step Store.empty removedMember) id r ∧
        (policy (Runs.run step Store.empty removedMember)).allows r (text "/app/log") ∧
        (Member (Runs.run step Store.empty removedMember) id ∨
          RemovedSinceGrant removedMember id r) :=
  access_member_or_removed removedMember (fun _ => .ok ⟨some (text "u"), none⟩)
    (bearerRequest (text "/app/log")) ⟨some (text "u"), none⟩
    (decodeToken_bearerRequest _ _) rfl

end CcfIdentity
