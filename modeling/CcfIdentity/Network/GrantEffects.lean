import CcfIdentity.Auth.Policy
import CcfIdentity.Network.Steps
import CcfIdentity.Rbac.Grants

/-!
# What a grant decides

The check looks up the roles of individuals and of groups alike, but a grant asks whether
its principal is a registered service principal. A group that governance has registered as
such is refused, and no request of its members is let in by the role.
-/

open Utf16

namespace CcfIdentity

/-- The role, once granted, is listed for the principal: onto the list of its entry, or
through the text of a first grant, which lists some role that allows the path. -/
def ReachesList (s : Store) (r p path : Text) : Prop :=
  match s.roleAssignments[p]? with
  | some assignment => HasList assignment
  | none => ∃ x, .str x ∈ spliced r ∧ (policy s).allows x path

/-- Every role of the token can be read, and none denies the path. -/
def Unhindered (s : Store) (token : JwtPayload) (path : Text) : Prop :=
  ∀ id ∈ token.identifiers, ∀ role ∈ rolesOf s id,
    Readable s role ∧ ¬ lists s (·.notActions) path role

/-- The entry of the identifier, or the one it is given by the text of a first grant. -/
def entryOrText (s : Store) (r p id : Text) : Option Json :=
  if id = p ∧ principalExists s p then s.roleAssignments[p]?.or (Json.parse (grantText r))
  else s.roleAssignments[id]?

/-- The look-ups of the token find lists: for the groups whatever `roles` there are, for the
individual whatever would be scanned. -/
structure FindsLists (s : Store) (r p : Text) (token : JwtPayload) : Prop where
  groups : ∀ id ∈ token.groups, ∀ v,
    (entryOrText s r p id).bind (·.property rolesProperty) = some v → ∃ roles, v = .arr roles
  individual : ∀ oid ∈ token.oid, ∀ v,
    (entryOrText s r p oid).bind (·.property rolesProperty) = some v → v.truthy →
      ∃ roles, v = .arr roles

/-- Without hindrance the check lets in whoever holds a role that allows the path, provided
that its look-ups give lists. -/
theorem checkToken_unhindered {s : Store} {token : JwtPayload} {path : Text}
    (h : Unhindered s token path) : checkToken s token path = .ok true ↔
      ((∀ id ∈ token.groups, WellAssigned s id) ∧ Scannable s token) ∧
        (policy s).Allowed token.all path := by
  have hindividual : ∀ role ∈ individualRoles s token,
      Readable s role ∧ ¬ lists s (·.notActions) path role := by
    intro role hrole
    obtain ⟨oid, hoid, hmem⟩ := (mem_individualRoles s token role).mp hrole
    exact h oid (List.mem_append_left _ (Option.mem_toList.mpr hoid)) role hmem
  have hgroups : ∀ role ∈ groupRoles s token, Readable s role := by
    intro role hrole
    obtain ⟨id, hid, hmem⟩ := (mem_groupRoles s token role).mp hrole
    exact (h id (List.mem_append_right _ hid) role hmem).1
  rw [checkToken_ok_iff, decision_iff, ← allowed_iff]
  constructor
  · rintro ⟨hanswered, -, hallowed⟩
    exact ⟨⟨hanswered.groups, hanswered.individual⟩, hallowed⟩
  · rintro ⟨⟨hwell, hscan⟩, hallowed⟩
    exact ⟨⟨hwell, hscan, fun role hrole => (hindividual role hrole).1, .inr hgroups⟩,
      fun role hrole => (hindividual role hrole).2, hallowed⟩

-- A push onto a list leaves a list, and any other entry is left as it is.
private theorem looked_assign {s : Store} {r p : Text} (hrole : roleExists s r) (id : Text)
    {Q : Json → Prop} (hlist : ∀ roles, Q (.arr roles)) :
    (∀ v, getRolesForPrincipal (assignPrincipalToRole s r p).2 id = some v → Q v) ↔
      ∀ v, (entryOrText s r p id).bind (·.property rolesProperty) = some v → Q v := by
  rw [getRolesForPrincipal_eq, entry_assign, entryOrText]
  by_cases hid : id = p
  · subst hid
    by_cases hprincipal : principalExists s id = true
    · rw [if_pos rfl, if_pos ⟨rfl, hprincipal⟩]
      cases hentry : s.roleAssignments[id]? with
      | none => rw [grant_first hrole hprincipal hentry, Option.or_none, Option.none_or]
      | some assignment =>
        rw [grant_later hrole hprincipal hentry, Option.some_or]
        cases hpush : pushRole assignment r with
        | error failure => rfl
        | ok pushed =>
          rcases pushRole_ok hpush with ⟨rfl, rfl⟩ | ⟨roles, hroles, hpushed⟩
          · rfl
          · apply iff_of_true
            · intro v hv
              have hv' : v = .arr (roles ++ [.str r]) := by
                simpa [Except.toOption, hpushed] using hv.symm
              exact hv' ▸ hlist _
            · intro v hv
              have hv' : v = .arr roles := by simpa [hroles] using hv.symm
              exact hv' ▸ hlist _
    · rw [if_pos rfl, if_neg fun h => hprincipal h.2, grant, if_neg fun h => hprincipal h.2,
        Option.none_or]
  · rw [if_neg hid, if_neg fun h => hid h.1]

/-- The look-ups after a grant find lists where they find them in its entry or its text. -/
theorem findsLists_assign {s : Store} {r p : Text} (hrole : roleExists s r)
    (token : JwtPayload) :
    ((∀ id ∈ token.groups, WellAssigned (assignPrincipalToRole s r p).2 id) ∧
      Scannable (assignPrincipalToRole s r p).2 token) ↔ FindsLists s r p token := by
  have hgroup : ∀ id, WellAssigned (assignPrincipalToRole s r p).2 id ↔ _ := fun id =>
    looked_assign hrole id fun roles => ⟨roles, rfl⟩
  have hoid : ∀ oid, _ ↔ _ := fun oid =>
    looked_assign (Q := fun v => v.truthy → ∃ roles, v = .arr roles) (p := p) hrole oid
      fun roles _ => ⟨roles, rfl⟩
  constructor
  · rintro ⟨hwell, hscan⟩
    exact ⟨fun id hid => (hgroup id).mp (hwell id hid),
      fun oid hid => (hoid oid).mp (hscan oid hid)⟩
  · rintro ⟨hgroups, hindividual⟩
    exact ⟨fun id hid => (hgroup id).mpr (hgroups id hid),
      fun oid hid => (hoid oid).mpr (hindividual oid hid)⟩

/-- A grant leaves alone what the roles allow. -/
theorem allows_assign (s : Store) (r p x path : Text) :
    (policy (assignPrincipalToRole s r p).2).allows x path ↔ (policy s).allows x path := by
  simp only [policy, permissionsOf, assign_roles]

/-- An identifier holds after a grant what it held before, and what the grant lists. -/
theorem allowed_assign {s : Store} {r p path : Text} {token : JwtPayload}
    (hrole : roleExists s r) (hallows : (policy s).allows r path)
    (hp : p ∈ token.identifiers) :
    (policy (assignPrincipalToRole s r p).2).Allowed token.all path ↔
      (policy s).Allowed token.all path ∨ principalExists s p ∧ ReachesList s r p path := by
  constructor
  · rintro ⟨id, hid, x, hholds, hx⟩
    replace hx : (policy s).allows x path := (allows_assign s r p x path).mp hx
    change .str x ∈ rolesOf _ id at hholds
    rw [rolesOf_assign] at hholds
    split at hholds
    · next heffective =>
      obtain ⟨rfl, -, hprincipal⟩ := heffective
      cases hentry : s.roleAssignments[id]? with
      | none =>
        rw [granted, hentry] at hholds
        refine .inr ⟨hprincipal, ?_⟩
        rw [ReachesList, hentry]
        exact ⟨x, hholds, hx⟩
      | some assignment =>
        rcases (mem_granted hentry).mp hholds with hheld | ⟨-, hlist⟩
        · exact .inl ⟨id, hid, x, hheld, hx⟩
        · refine .inr ⟨hprincipal, ?_⟩
          rw [ReachesList, hentry]
          exact hlist
    · exact .inl ⟨id, hid, x, hholds, hx⟩
  · rintro (⟨id, hid, x, hholds, hx⟩ | ⟨hprincipal, hreaches⟩)
    · refine ⟨id, hid, x, ?_, (allows_assign s r p x path).mpr hx⟩
      change .str x ∈ rolesOf _ id
      rw [rolesOf_assign]
      split
      · next heffective =>
        obtain ⟨rfl, -, -⟩ := heffective
        obtain ⟨assignment, hentry, -⟩ := Holds.entry hholds
        exact (mem_granted hentry).mpr (.inl hholds)
      · exact hholds
    · have hlisted : rolesOf (assignPrincipalToRole s r p).2 p = granted s r p := by
        rw [rolesOf_assign, if_pos ⟨rfl, hrole, hprincipal⟩]
      rw [ReachesList] at hreaches
      split at hreaches
      · next assignment hentry =>
        refine ⟨p, hp, r, ?_, (allows_assign s r p r path).mpr hallows⟩
        change .str r ∈ rolesOf _ p
        rw [hlisted]
        exact (mem_granted hentry).mpr (.inr ⟨rfl, hreaches⟩)
      · next hentry =>
        obtain ⟨x, hx, hxallows⟩ := hreaches
        refine ⟨p, hp, x, ?_, (allows_assign s r p x path).mpr hxallows⟩
        change .str x ∈ rolesOf _ p
        rw [hlisted, granted, hentry]
        exact hx

private theorem roleExists_of_allows {s : Store} {r path : Text}
    (h : (policy s).allows r path) : roleExists s r = true := by
  obtain ⟨perm, hperm, -⟩ := h
  obtain ⟨role, hrole, -⟩ := Option.bind_eq_some_iff.mp hperm
  exact (roleExists_iff s r).mpr ⟨role, hrole⟩

/-- Where nothing hinders the token after a grant of a role that allows the path, it is let
in exactly when its look-ups find lists and either it was allowed the path anyway, or the
grant's principal is a registered service principal and the role reaches its list. -/
theorem grant_reaches_iff (jwt_decode : Option Text → Except Failure JwtPayload) (s : Store)
    (r g : Text) (request : Request) (token : JwtPayload)
    (htoken : decodeToken jwt_decode request = .ok token)
    (hallows : (policy s).allows r request.path)
    (hpresented : principalExists s g ∧ token.oid = some g ∨ groupExists s g ∧ g ∈ token.groups)
    (hafter : Unhindered (assignPrincipalToRole s r g).2 token request.path) :
    checkAccess jwt_decode (assignPrincipalToRole s r g).2 request = .ok true ↔
      FindsLists s r g token ∧ ((policy s).Allowed token.all request.path ∨
        principalExists s g ∧ ReachesList s r g request.path) := by
  have hrole : roleExists s r = true := roleExists_of_allows hallows
  have hg : g ∈ token.identifiers := by
    rcases hpresented with ⟨-, hoid⟩ | ⟨-, hmem⟩
    · exact List.mem_append_left _ (Option.mem_toList.mpr hoid)
    · exact List.mem_append_right _ hmem
  rw [checkAccess_of_decodeToken _ htoken, checkToken_unhindered hafter,
    findsLists_assign hrole, allowed_assign hrole hallows hg]

/-- A role that allows `/app/log`, with a group and a service principal registered by
governance. -/
def registered : List Event :=
  [.rbac (.addRole ⟨text "reader", text "Reader", some ⟨some [text "/app/log"], none⟩⟩),
    .governance (.setGroupId (text "g") (text "group")),
    .governance (.setServicePrincipal (text "u") (text "user"))]

private theorem registered_allows :
    (policy (Runs.run step Store.empty registered)).allows (text "reader") logRequest.path :=
  ⟨⟨some [text "/app/log"], none⟩, rfl, [text "/app/log"], rfl, List.mem_singleton_self _⟩

/-- The role is refused to the group, and a member of the group is kept out. -/
theorem registered_group_kept_out :
    groupExists (Runs.run step Store.empty registered) (text "g") ∧
      (policy (Runs.run step Store.empty registered)).allows (text "reader") logRequest.path ∧
      Unhindered (assignPrincipalToRole (Runs.run step Store.empty registered) (text "reader")
        (text "g")).2 ⟨none, some [text "g"]⟩ logRequest.path ∧
      checkAccess (fun _ => .ok ⟨none, some [text "g"]⟩)
        (assignPrincipalToRole (Runs.run step Store.empty registered) (text "reader")
          (text "g")).2 logRequest = .ok false := by
  refine ⟨rfl, registered_allows, fun id hid role hrole => ?_, rfl⟩
  have hg : id = text "g" := by simpa [JwtPayload.identifiers, JwtPayload.groups] using hid
  have hnothing : rolesOf (assignPrincipalToRole (Runs.run step Store.empty registered)
      (text "reader") (text "g")).2 (text "g") = [] := rfl
  rw [hg, hnothing] at hrole
  cases hrole

/-- The role is granted to the service principal, which is let in. -/
theorem registered_principal_let_in :
    checkAccess (fun _ => .ok ⟨some (text "u"), none⟩)
      (assignPrincipalToRole (Runs.run step Store.empty registered) (text "reader")
        (text "u")).2 logRequest = .ok true := by
  have hlisted : rolesOf (assignPrincipalToRole (Runs.run step Store.empty registered)
      (text "reader") (text "u")).2 (text "u") = [.str (text "reader")] := rfl
  have hentry : (entryOrText (Runs.run step Store.empty registered) (text "reader") (text "u")
      (text "u")).bind (·.property rolesProperty) = some (.arr [.str (text "reader")]) := rfl
  apply (grant_reaches_iff _ _ _ _ _ _ (decodeToken_bearerRequest _ _) registered_allows
    (.inl ⟨rfl, rfl⟩) fun id hid role hrole => ?_).mpr
  · refine ⟨⟨fun id hid => (by cases hid), fun oid hoid v hv _ => ?_⟩, .inr ⟨rfl, ?_⟩⟩
    · cases Option.mem_def.mp hoid
      rw [hentry] at hv
      exact ⟨_, (Option.some.inj hv).symm⟩
    · refine ⟨text "reader", ?_, registered_allows⟩
      rw [spliced_plain (by decide)]
      exact List.mem_singleton_self _
  · have hu : id = text "u" := by simpa [JwtPayload.identifiers, JwtPayload.groups] using hid
    rw [hu, hlisted, List.mem_singleton] at hrole
    subst hrole
    exact ⟨⟨⟨some [text "/app/log"], none⟩, rfl⟩, by decide⟩

end CcfIdentity
