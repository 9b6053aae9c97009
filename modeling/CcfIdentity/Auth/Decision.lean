import CcfIdentity.Auth.Outcome

/-!
# The outcome on resolved identifiers

On identifiers whose roles all exist and have permissions the check always answers
(`checkToken_ok`). In general its outcome, an exception included, depends only on the
entries of the token's identifiers and on the roles listed there (`checkToken_congr`).
-/

open Utf16

namespace CcfIdentity

/-- The permissions stored for a role identifier. -/
def permissionsOf (s : Store) (r : Text) : Option Permission := s.roles[r]?.bind (·.permissions)

/-- What is read for a role identifier are the permissions stored for it. -/
theorem rolePermissions_eq (s : Store) (r : Text) :
    rolePermissions s (.str r) = match permissionsOf s r with
      | some perm => .ok perm
      | none => .error .typeError := by
  rw [rolePermissions, getRole_eq, permissionsOf]
  cases s.roles[r]? with
  | none => rfl
  | some irole => rfl

/-- Whatever is stored for the identifier is a list of existing roles with permissions. -/
def Resolved (s : Store) (id : Text) : Prop :=
  ∀ v, getRolesForPrincipal s id = some v →
    ∃ roles, v = .arr roles ∧ ∀ role ∈ roles, Readable s role

/-- Resolved identifiers have lists. -/
theorem Resolved.wellAssigned {s : Store} {id : Text} (h : Resolved s id) :
    WellAssigned s id := by
  intro v hv
  obtain ⟨roles, hroles, -⟩ := h v hv
  exact ⟨roles, hroles⟩

/-- A list of readable roles resolves the identifier it is stored for. -/
theorem Resolved.of_list {s : Store} {id : Text} {roles : List Json}
    (h : getRolesForPrincipal s id = some (.arr roles)) (hread : ∀ role ∈ roles, Readable s role) :
    Resolved s id := by
  intro v hv
  rw [h] at hv
  cases hv
  exact ⟨roles, rfl, hread⟩

/-- The roles listed for a resolved identifier can be read. -/
theorem Resolved.readable {s : Store} {id : Text} (h : Resolved s id) {role : Json}
    (hrole : role ∈ rolesOf s id) : Readable s role := by
  rw [rolesOf] at hrole
  split at hrole
  · next roles hv =>
    obtain ⟨roles', hroles', hread⟩ := h _ hv
    cases hroles'
    exact hread role hrole
  · cases hrole

/-! ### The check of resolved identifiers -/

/-- The check answers where every identifier is resolved. -/
theorem Answered.of_resolved {s : Store} {token : JwtPayload} (resource : Text)
    (h : ∀ id ∈ token.identifiers, Resolved s id) : Answered s token resource := by
  have hoid : ∀ oid ∈ token.oid, Resolved s oid := fun oid hoid =>
    h oid (List.mem_append_left _ (Option.mem_toList.mpr hoid))
  have hgroups : ∀ id ∈ token.groups, Resolved s id := fun id hid =>
    h id (List.mem_append_right _ hid)
  refine ⟨fun id hid => (hgroups id hid).wellAssigned,
    fun oid hid v hv _ => (hoid oid hid).wellAssigned v hv, fun role hrole => ?_,
    .inr fun role hrole => ?_⟩
  · obtain ⟨oid, hid, hmem⟩ := (mem_individualRoles s token role).mp hrole
    exact (hoid oid hid).readable hmem
  · obtain ⟨id, hid, hmem⟩ := (mem_groupRoles s token role).mp hrole
    exact (hgroups id hid).readable hmem

/-- The check of a token whose identifiers are all resolved. -/
theorem checkToken_ok {s : Store} {token : JwtPayload} (resource : Text)
    (h : ∀ id ∈ token.identifiers, Resolved s id) :
    checkToken s token resource = .ok
      (!(token.oid.toList.flatMap (rolesOf s)).any (lists s (·.notActions) resource) &&
        (token.identifiers.flatMap (rolesOf s)).any (lists s (·.actions) resource)) :=
  checkToken_answered (Answered.of_resolved resource h)

/-- Reading a role depends on its permissions only. -/
theorem readable_of_eq {s s' : Store} {role : Json}
    (h : rolePermissions s role = rolePermissions s' role) : Readable s role ↔ Readable s' role := by
  rw [Readable, Readable, h]

/-- What a role lists depends on its permissions only. -/
theorem lists_of_eq {s s' : Store} {role : Json}
    (h : rolePermissions s role = rolePermissions s' role)
    (list : Permission → Option (List Text)) (resource : Text) :
    lists s list resource role = lists s' list resource role := by
  rw [lists, lists, h]

/-- Two stores that agree on the token's look-ups and on the roles found there give the
same outcome, failures included. -/
theorem checkToken_congr {s s' : Store} {token : JwtPayload} (resource : Text)
    (hlook : ∀ id ∈ token.identifiers, getRolesForPrincipal s id = getRolesForPrincipal s' id)
    (hread : ∀ id ∈ token.identifiers, ∀ role ∈ rolesOf s id,
      rolePermissions s role = rolePermissions s' role) :
    checkToken s token resource = checkToken s' token resource := by
  have hoid : ∀ oid ∈ token.oid, getRolesForPrincipal s oid = getRolesForPrincipal s' oid :=
    fun oid hoid => hlook oid (List.mem_append_left _ (Option.mem_toList.mpr hoid))
  have hgroups : ∀ id ∈ token.groups, getRolesForPrincipal s id = getRolesForPrincipal s' id :=
    fun id hid => hlook id (List.mem_append_right _ hid)
  have hroles : ∀ role ∈ token.identifiers.flatMap (rolesOf s),
      rolePermissions s role = rolePermissions s' role := by
    intro role hrole
    obtain ⟨id, hid, hmem⟩ := List.mem_flatMap.mp hrole
    exact hread id hid role hmem
  apply Alike.checkToken_eq
  constructor
  case groups =>
    exact forall₂_congr fun id hid => by rw [WellAssigned, WellAssigned, hgroups id hid]
  case individual =>
    exact forall₂_congr fun oid hid => by rw [hoid oid hid]
  case ofIndividual =>
    intro role
    rw [mem_individualRoles, mem_individualRoles]
    exact exists_congr fun oid => and_congr_right fun hid => by
      rw [rolesOf, rolesOf, hoid oid hid]
  case ofGroups =>
    intro role
    rw [mem_groupRoles, mem_groupRoles]
    exact exists_congr fun id => and_congr_right fun hid => by
      rw [rolesOf, rolesOf, hgroups id hid]
  case readable => exact fun role hrole => readable_of_eq (hroles role hrole)
  case denies =>
    intro role hrole
    apply lists_of_eq (hroles role _)
    rw [identifiers_roles]
    exact List.mem_append_left _ hrole
  case allows => exact fun role hrole => lists_of_eq (hroles role hrole) _ _

/-- A token that presents one unresolved group makes the check throw. -/
theorem checkToken_error {s : Store} {id : Text} (resource : Text) (h : ¬ Resolved s id) :
    checkToken s ⟨none, some [id]⟩ resource = .error .typeError := by
  apply checkToken_unanswered
  intro hanswered
  apply h
  intro v hv
  obtain ⟨roles, rfl⟩ := hanswered.groups id (List.mem_singleton_self id) v hv
  refine ⟨roles, rfl, fun role hrole => ?_⟩
  rcases hanswered.denied_or_readable with ⟨denier, hdenier, -⟩ | hread
  · cases hdenier
  · apply hread role
    apply (mem_groupRoles _ _ role).mpr
    exact ⟨id, List.mem_singleton_self id, by rw [rolesOf, hv]; exact hrole⟩

/-- A positive answer comes from a role of one of the token's identifiers that lists the
resource, whatever else the tables hold. -/
theorem checkToken_true {s : Store} {token : JwtPayload} {resource : Text}
    (h : checkToken s token resource = .ok true) :
    ∃ id ∈ token.identifiers, ∃ role ∈ rolesOf s id, lists s (·.actions) resource role := by
  obtain ⟨-, hdecision⟩ := checkToken_ok_iff.mp h
  rw [decision, Bool.and_eq_true, List.any_eq_true] at hdecision
  obtain ⟨role, hrole, hlists⟩ := hdecision.2
  obtain ⟨id, hid, hmem⟩ := List.mem_flatMap.mp hrole
  exact ⟨id, hid, role, hmem, hlists⟩

end CcfIdentity
