import CcfIdentity.Auth.Scan
import CcfIdentity.Rbac.GroupLookup

/-!
# When the check answers, and what

The check scans the roles listed for the individual, then those listed for the groups. It
answers exactly when each look-up gives something to scan and every role it comes to can be
read (`checkToken_answered`), and throws a type error otherwise (`checkToken_unanswered`).
-/

open Utf16

namespace CcfIdentity

/-- The groups a token presents. -/
def JwtPayload.groups (token : JwtPayload) : List Text := token.group_ids.getD []

/-- All identifiers a token presents. -/
def JwtPayload.identifiers (token : JwtPayload) : List Text :=
  token.oid.toList ++ token.groups

/-- The roles listed for the individual. -/
def individualRoles (s : Store) (token : JwtPayload) : List Json :=
  token.oid.toList.flatMap (rolesOf s)

/-- The roles listed for the groups. -/
def groupRoles (s : Store) (token : JwtPayload) : List Json := token.groups.flatMap (rolesOf s)

/-- What is stored for the individual is a list, or nothing the check would scan. -/
def Scannable (s : Store) (token : JwtPayload) : Prop :=
  ∀ oid ∈ token.oid, ∀ v, getRolesForPrincipal s oid = some v → v.truthy →
    ∃ roles, v = .arr roles

/-- What the check answers where it does: no role of the individual denies the resource, and
some role of the token allows it. -/
def decision (s : Store) (token : JwtPayload) (resource : Text) : Bool :=
  !(individualRoles s token).any (lists s (·.notActions) resource) &&
    (token.identifiers.flatMap (rolesOf s)).any (lists s (·.actions) resource)

/-- The look-ups give lists, the individual's roles can be read, and the groups' roles too
unless the individual is denied before they are come to. -/
structure Answered (s : Store) (token : JwtPayload) (resource : Text) : Prop where
  groups : ∀ id ∈ token.groups, WellAssigned s id
  individual : Scannable s token
  readable : ∀ role ∈ individualRoles s token, Readable s role
  denied_or_readable : (∃ role ∈ individualRoles s token, lists s (·.notActions) resource role) ∨
    ∀ role ∈ groupRoles s token, Readable s role

/-! ### The group look-up -/

/-- What the group look-up returns over entries with lists. -/
theorem lookupGroups_ok {s : Store} {group_ids : Option (List Text)}
    (h : ∀ id ∈ group_ids.getD [], WellAssigned s id) :
    ∃ gpRoles, lookupGroups s group_ids = .ok gpRoles ∧
      gpRoles.getD [] = (group_ids.getD []).flatMap (rolesOf s) := by
  cases group_ids with
  | none => exact ⟨none, rfl, rfl⟩
  | some ids =>
    rw [Option.getD_some] at h ⊢
    rw [lookupGroups]
    split
    · rw [getRolesForGroups_ok h]
      refine ⟨_, rfl, ?_⟩
      split
      · next hnil =>
        rw [Option.getD_none, eq_comm, List.flatMap_eq_nil_iff]
        intro id hid
        rw [rolesOf, List.filterMap_eq_nil_iff.mp hnil id hid]
      · rfl
    · next hempty =>
      have hnil : ids = [] := List.eq_nil_of_length_eq_zero (by omega)
      exact ⟨none, rfl, by rw [hnil]; rfl⟩

/-- One group whose roles are not a list makes the look-up throw. -/
theorem lookupGroups_error {s : Store} {group_ids : Option (List Text)} {id : Text}
    (hid : id ∈ group_ids.getD []) (h : ¬ WellAssigned s id) :
    lookupGroups s group_ids = .error .typeError := by
  cases group_ids with
  | none => cases hid
  | some ids =>
    rw [Option.getD_some] at hid
    rw [lookupGroups, if_pos (List.length_pos_of_mem hid), getRolesForGroups_error hid h]

/-! ### The scans -/

/-- The group scans over readable roles: what denies is not looked at. -/
theorem checkGroups_ok {s : Store} {gpRoles : Option (List Json)} (resource : Text)
    (h : ∀ role ∈ gpRoles.getD [], Readable s role) (denied allowed : Bool) :
    checkGroups s gpRoles resource denied allowed =
      .ok (allowed || (gpRoles.getD []).any (lists s (·.actions) resource)) := by
  cases gpRoles with
  | none => simp [checkGroups]
  | some roles =>
    rw [Option.getD_some] at h
    rw [checkGroups, scan_ok h, scan_ok h]
    rfl

/-- The group scans over a role that cannot be read. -/
theorem checkGroups_error {s : Store} {gpRoles : Option (List Json)} (resource : Text)
    (h : ∃ role ∈ gpRoles.getD [], ¬ Readable s role) (denied allowed : Bool) :
    checkGroups s gpRoles resource denied allowed = .error .typeError := by
  cases gpRoles with
  | none =>
    obtain ⟨role, hrole, -⟩ := h
    cases hrole
  | some roles =>
    rw [Option.getD_some] at h
    rw [checkGroups, scan_error h]
    rfl

-- Without anything truthy to scan for the individual only the groups are scanned.
private theorem checkRoles_skipped {s : Store} {spRoles : Option Json}
    {gpRoles : Option (List Json)} (resource : Text) (h : ∀ v ∈ spRoles, ¬ v.truthy) :
    checkRoles s spRoles gpRoles resource = checkGroups s gpRoles resource false false := by
  cases spRoles with
  | none => rfl
  | some v => simp only [checkRoles, if_neg (h v rfl)]

private theorem checkRoles_thrown {s : Store} {v : Json} {gpRoles : Option (List Json)}
    (resource : Text) (htruthy : v.truthy) (hnot : ∀ roles, v ≠ .arr roles) :
    checkRoles s (some v) gpRoles resource = .error .typeError := by
  cases v with
  | arr roles => exact absurd rfl (hnot roles)
  | _ => simp only [checkRoles, if_pos htruthy]

private theorem checkRoles_unreadable {s : Store} {roles : List Json}
    {gpRoles : Option (List Json)} (resource : Text) (h : ∃ role ∈ roles, ¬ Readable s role) :
    checkRoles s (some (.arr roles)) gpRoles resource = .error .typeError := by
  simp only [checkRoles, Json.truthy, ↓reduceIte, scan_error h]
  rfl

private theorem checkRoles_denied {s : Store} {roles : List Json}
    {gpRoles : Option (List Json)} {resource : Text} (hread : ∀ role ∈ roles, Readable s role)
    (hdenied : roles.any (lists s (·.notActions) resource) = true) :
    checkRoles s (some (.arr roles)) gpRoles resource = .ok false := by
  simp only [checkRoles, Json.truthy, ↓reduceIte, scan_ok hread, Bool.false_or, hdenied]
  rfl

private theorem checkRoles_undenied {s : Store} {roles : List Json}
    {gpRoles : Option (List Json)} {resource : Text} (hread : ∀ role ∈ roles, Readable s role)
    (hdenied : roles.any (lists s (·.notActions) resource) = false) :
    checkRoles s (some (.arr roles)) gpRoles resource =
      checkGroups s gpRoles resource false (roles.any (lists s (·.actions) resource)) := by
  simp only [checkRoles, Json.truthy, ↓reduceIte, scan_ok hread, Bool.false_or, hdenied]
  rfl

private theorem rolesOf_not_list {s : Store} {id : Text} {v : Json}
    (hv : getRolesForPrincipal s id = some v) (hnot : ∀ roles, v ≠ .arr roles) :
    rolesOf s id = [] := by
  rw [rolesOf, hv]
  cases v with
  | arr roles => exact absurd rfl (hnot roles)
  | _ => rfl

-- What is stored for the individual: nothing truthy, a list, or something that cannot be scanned.
private theorem individual_cases (s : Store) (token : JwtPayload) :
    (individualRoles s token = [] ∧
      ∀ v ∈ token.oid.bind (getRolesForPrincipal s), ¬ v.truthy) ∨
    (∃ roles, individualRoles s token = roles ∧
      token.oid.bind (getRolesForPrincipal s) = some (.arr roles)) ∨
    ∃ oid ∈ token.oid, ∃ v, getRolesForPrincipal s oid = some v ∧ v.truthy ∧
      ∀ roles, v ≠ .arr roles := by
  cases hoid : token.oid with
  | none => exact .inl ⟨by simp [individualRoles, hoid], by simp⟩
  | some oid =>
    have hroles : individualRoles s token = rolesOf s oid := by simp [individualRoles, hoid]
    rw [hroles, Option.bind_some]
    cases hv : getRolesForPrincipal s oid with
    | none => exact .inl ⟨by rw [rolesOf, hv], by simp⟩
    | some v =>
      by_cases hlist : ∃ roles, v = .arr roles
      · obtain ⟨roles, rfl⟩ := hlist
        exact .inr (.inl ⟨roles, by rw [rolesOf, hv], rfl⟩)
      · have hnot : ∀ roles, v ≠ .arr roles := fun roles hroles => hlist ⟨roles, hroles⟩
        by_cases htruthy : v.truthy = true
        · exact .inr (.inr ⟨oid, rfl, v, hv, htruthy, hnot⟩)
        · exact .inl ⟨rolesOf_not_list hv hnot, by simpa using htruthy⟩

/-- The roles of all identifiers are the individual's and the groups'. -/
theorem identifiers_roles (s : Store) (token : JwtPayload) :
    token.identifiers.flatMap (rolesOf s) = individualRoles s token ++ groupRoles s token := by
  rw [JwtPayload.identifiers, List.flatMap_append]
  rfl

/-- The individual's roles are listed for one identifier. -/
theorem mem_individualRoles (s : Store) (token : JwtPayload) (role : Json) :
    role ∈ individualRoles s token ↔ ∃ oid ∈ token.oid, role ∈ rolesOf s oid := by
  simp [individualRoles, List.mem_flatMap]

/-- A group's roles are listed for one of the groups. -/
theorem mem_groupRoles (s : Store) (token : JwtPayload) (role : Json) :
    role ∈ groupRoles s token ↔ ∃ id ∈ token.groups, role ∈ rolesOf s id := List.mem_flatMap

/-- Where it answers, the check gives the decision. -/
theorem checkToken_answered {s : Store} {token : JwtPayload} {resource : Text}
    (h : Answered s token resource) :
    checkToken s token resource = .ok (decision s token resource) := by
  obtain ⟨gpRoles, hlookup, hgp⟩ := lookupGroups_ok h.groups
  have hcheck : checkToken s token resource =
      checkRoles s (token.oid.bind (getRolesForPrincipal s)) gpRoles resource := by
    rw [checkToken, hlookup]
    rfl
  have hgroups : gpRoles.getD [] = groupRoles s token := hgp
  rw [hcheck, decision, identifiers_roles, List.any_append, ← hgroups]
  rcases individual_cases s token with ⟨hnil, hskipped⟩ | ⟨roles, hroles, hsp⟩ |
    ⟨oid, hoid, v, hv, htruthy, hnot⟩
  · have hread : ∀ role ∈ gpRoles.getD [], Readable s role := by
      rw [hgroups]
      refine h.denied_or_readable.resolve_left ?_
      rintro ⟨role, hrole, -⟩
      rw [hnil] at hrole
      cases hrole
    rw [checkRoles_skipped resource hskipped, checkGroups_ok resource hread, hnil]
    rfl
  · have hread : ∀ role ∈ roles, Readable s role := hroles ▸ h.readable
    rw [hsp, hroles]
    cases hdenied : roles.any (lists s (·.notActions) resource) with
    | true => rw [checkRoles_denied hread hdenied, Bool.not_true, Bool.false_and]
    | false =>
      have hgread : ∀ role ∈ gpRoles.getD [], Readable s role := by
        rw [hgroups]
        refine h.denied_or_readable.resolve_left fun hsome => ?_
        rw [hroles, ← List.any_eq_true, hdenied] at hsome
        cases hsome
      rw [checkRoles_undenied hread hdenied, checkGroups_ok resource hgread, Bool.not_false,
        Bool.true_and]
  · obtain ⟨roles, rfl⟩ := h.individual oid hoid v hv htruthy
    exact absurd rfl (hnot roles)

-- An individual with nothing that cannot be scanned is denied, or some role is unreadable.
private theorem unreadable_of_unanswered {s : Store} {token : JwtPayload} {resource : Text}
    (h : ¬ Answered s token resource) (hgroups : ∀ id ∈ token.groups, WellAssigned s id)
    (hindividual : ∀ v ∈ token.oid.bind (getRolesForPrincipal s), v.truthy →
      ∃ roles, v = .arr roles) :
    (∃ role ∈ individualRoles s token, ¬ Readable s role) ∨
      (∀ role ∈ individualRoles s token, Readable s role) ∧
        (individualRoles s token).any (lists s (·.notActions) resource) = false ∧
        ∃ role ∈ groupRoles s token, ¬ Readable s role := by
  by_cases hread : ∀ role ∈ individualRoles s token, Readable s role
  · right
    have hlooked : Scannable s token := fun oid hoid v hv =>
      hindividual v (Option.mem_bind_iff.mpr ⟨oid, hoid, hv⟩)
    refine ⟨hread, ?_, ?_⟩
    · apply Bool.eq_false_iff.mpr
      intro hdenied
      exact h ⟨hgroups, hlooked, hread, .inl (List.any_eq_true.mp hdenied)⟩
    · by_contra hall
      refine h ⟨hgroups, hlooked, hread, .inr fun role hrole => ?_⟩
      exact by_contra fun hnot => hall ⟨role, hrole, hnot⟩
  · left
    simpa using hread

/-- Where it does not answer, the check throws a type error. -/
theorem checkToken_unanswered {s : Store} {token : JwtPayload} {resource : Text}
    (h : ¬ Answered s token resource) : checkToken s token resource = .error .typeError := by
  by_cases hwell : ∀ id ∈ token.groups, WellAssigned s id
  · obtain ⟨gpRoles, hlookup, hgp⟩ := lookupGroups_ok hwell
    have hcheck : checkToken s token resource =
        checkRoles s (token.oid.bind (getRolesForPrincipal s)) gpRoles resource := by
      rw [checkToken, hlookup]
      rfl
    have hgroups : gpRoles.getD [] = groupRoles s token := hgp
    rw [hcheck]
    rcases individual_cases s token with ⟨hnil, hskipped⟩ | ⟨roles, hroles, hsp⟩ |
      ⟨oid, hoid, v, hv, htruthy, hnot⟩
    · rcases unreadable_of_unanswered h hwell fun v hv ht => absurd ht (hskipped v hv) with
        ⟨role, hrole, -⟩ | ⟨-, -, hunread⟩
      · rw [hnil] at hrole
        cases hrole
      · rw [checkRoles_skipped resource hskipped, checkGroups_error resource (hgroups ▸ hunread)]
    · rw [hsp]
      rcases unreadable_of_unanswered h hwell fun v hv _ => ⟨roles, by simpa [hsp] using hv.symm⟩
        with hunread | ⟨hread, hdenied, hunread⟩
      · exact checkRoles_unreadable resource (hroles ▸ hunread)
      · rw [hroles] at hread hdenied
        rw [checkRoles_undenied hread hdenied, checkGroups_error resource (hgroups ▸ hunread)]
    · rw [Option.mem_def.mp hoid, Option.bind_some, hv, checkRoles_thrown resource htruthy hnot]
  · obtain ⟨id, hid, hnot⟩ : ∃ id ∈ token.groups, ¬ WellAssigned s id := by simpa using hwell
    rw [checkToken, lookupGroups_error hid hnot]
    rfl

/-- The check answers exactly under the conditions of `Answered`. -/
theorem checkToken_ok_iff {s : Store} {token : JwtPayload} {resource : Text} {answer : Bool} :
    checkToken s token resource = .ok answer ↔
      Answered s token resource ∧ decision s token resource = answer := by
  by_cases h : Answered s token resource
  · rw [checkToken_answered h]
    simp [h]
  · rw [checkToken_unanswered h]
    simp [h]

/-- The decision in terms of the roles. -/
theorem decision_iff (s : Store) (token : JwtPayload) (resource : Text) :
    decision s token resource = true ↔
      (∀ role ∈ individualRoles s token, ¬ lists s (·.notActions) resource role) ∧
        ∃ role ∈ token.identifiers.flatMap (rolesOf s), lists s (·.actions) resource role := by
  rw [decision, Bool.and_eq_true, Bool.not_eq_true', List.any_eq_false, List.any_eq_true]

/-! ### Equal outcomes -/

/-- Two stores and tokens are the same to the check of a resource: its look-ups give lists on
both sides or on neither, of the same roles, and these read alike. -/
structure Alike (s s' : Store) (token token' : JwtPayload) (resource : Text) : Prop where
  groups : (∀ id ∈ token.groups, WellAssigned s id) ↔ ∀ id ∈ token'.groups, WellAssigned s' id
  individual : Scannable s token ↔ Scannable s' token'
  ofIndividual : ∀ role, role ∈ individualRoles s token ↔ role ∈ individualRoles s' token'
  ofGroups : ∀ role, role ∈ groupRoles s token ↔ role ∈ groupRoles s' token'
  readable : ∀ role ∈ token.identifiers.flatMap (rolesOf s), Readable s role ↔ Readable s' role
  denies : ∀ role ∈ individualRoles s token,
    lists s (·.notActions) resource role = lists s' (·.notActions) resource role
  allows : ∀ role ∈ token.identifiers.flatMap (rolesOf s),
    lists s (·.actions) resource role = lists s' (·.actions) resource role

section Alike

variable {s s' : Store} {token token' : JwtPayload} {resource : Text}

private theorem any_eq_any {xs ys : List Json} {p q : Json → Bool} (h : ∀ x, x ∈ xs ↔ x ∈ ys)
    (hpq : ∀ x ∈ xs, p x = q x) : xs.any p = ys.any q := by
  apply Bool.eq_iff_iff.mpr
  rw [List.any_eq_true, List.any_eq_true]
  constructor
  · rintro ⟨x, hx, hp⟩
    exact ⟨x, (h x).mp hx, hpq x hx ▸ hp⟩
  · rintro ⟨x, hx, hq⟩
    have hmem : x ∈ xs := (h x).mpr hx
    exact ⟨x, hmem, (hpq x hmem).trans hq⟩

private theorem all_readable_iff {xs ys : List Json} (h : ∀ x, x ∈ xs ↔ x ∈ ys)
    (hread : ∀ x ∈ xs, Readable s x ↔ Readable s' x) :
    (∀ x ∈ xs, Readable s x) ↔ ∀ x ∈ ys, Readable s' x := by
  constructor
  · intro hall x hx
    have hmem : x ∈ xs := (h x).mpr hx
    exact (hread x hmem).mp (hall x hmem)
  · intro hall x hx
    exact (hread x hx).mpr (hall x ((h x).mp hx))

private theorem mem_identifiers_roles {role : Json} :
    role ∈ token.identifiers.flatMap (rolesOf s) ↔
      role ∈ individualRoles s token ∨ role ∈ groupRoles s token := by
  rw [identifiers_roles, List.mem_append]

private theorem Alike.answered_iff (h : Alike s s' token token' resource) :
    Answered s token resource ↔ Answered s' token' resource := by
  have hindividual : (∀ role ∈ individualRoles s token, Readable s role) ↔
      ∀ role ∈ individualRoles s' token', Readable s' role :=
    all_readable_iff h.ofIndividual fun role hrole =>
      h.readable role (mem_identifiers_roles.mpr (.inl hrole))
  have hgroups : (∀ role ∈ groupRoles s token, Readable s role) ↔
      ∀ role ∈ groupRoles s' token', Readable s' role :=
    all_readable_iff h.ofGroups fun role hrole =>
      h.readable role (mem_identifiers_roles.mpr (.inr hrole))
  have hdenied := any_eq_any h.ofIndividual h.denies
  rw [Bool.eq_iff_iff, List.any_eq_true, List.any_eq_true] at hdenied
  constructor
  · rintro ⟨hwell, hscan, hread, hrest⟩
    exact ⟨h.groups.mp hwell, h.individual.mp hscan, hindividual.mp hread,
      hrest.imp hdenied.mp hgroups.mp⟩
  · rintro ⟨hwell, hscan, hread, hrest⟩
    exact ⟨h.groups.mpr hwell, h.individual.mpr hscan, hindividual.mpr hread,
      hrest.imp hdenied.mpr hgroups.mpr⟩

private theorem Alike.decision_eq (h : Alike s s' token token' resource) :
    decision s token resource = decision s' token' resource := by
  have hsame : ∀ role, role ∈ token.identifiers.flatMap (rolesOf s) ↔
      role ∈ token'.identifiers.flatMap (rolesOf s') := fun role => by
    rw [mem_identifiers_roles, mem_identifiers_roles, h.ofIndividual, h.ofGroups]
  rw [decision, decision, any_eq_any h.ofIndividual h.denies, any_eq_any hsame h.allows]

/-- What is the same to the check has the same outcome, failures included. -/
theorem Alike.checkToken_eq (h : Alike s s' token token' resource) :
    checkToken s token resource = checkToken s' token' resource := by
  by_cases hanswered : Answered s token resource
  · rw [checkToken_answered hanswered, checkToken_answered (h.answered_iff.mp hanswered),
      h.decision_eq]
  · rw [checkToken_unanswered hanswered,
      checkToken_unanswered fun hanswered' => hanswered (h.answered_iff.mpr hanswered')]

end Alike

end CcfIdentity
