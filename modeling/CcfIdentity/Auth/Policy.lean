import CcfIdentity.Auth.Decision
import CcfIdentity.Base.DenyOverrides

/-!
# The policy the check enforces

The tables describe a policy: who holds which role, and what each role allows and denies.
Over resolved identifiers the check decides that policy hearing only the individual's
denials, and so decides deny-overrides exactly where no denial comes from groups alone.
-/

open Utf16

namespace CcfIdentity

/-- The policy the tables describe. -/
def policy (s : Store) : DenyOverrides.Policy Text Text Text where
  holds := Holds s
  allows r path := ∃ perm ∈ permissionsOf s r, ∃ actions ∈ perm.actions, path ∈ actions
  denies r path := ∃ perm ∈ permissionsOf s r, ∃ notActions ∈ perm.notActions, path ∈ notActions

/-- The individual's identifier, if the token has one. -/
def JwtPayload.individual (token : JwtPayload) : Set Text := {id | id ∈ token.oid}

/-- The identifiers of the token as a set. -/
def JwtPayload.all (token : JwtPayload) : Set Text := {id | id ∈ token.identifiers}

/-- The check decides deny-overrides over all roles of the token's identifiers. -/
def DecidesDenyOverrides (jwt_decode : Option Text → Except Failure JwtPayload) (s : Store)
    (request : Request) (token : JwtPayload) : Prop :=
  (checkAccess jwt_decode s request = .ok true ↔ (policy s).Permits token.all request.path) ∧
    (¬ (policy s).Permits token.all request.path → checkAccess jwt_decode s request = .ok false)

/-- What it means for a scan to find the path in a role. -/
theorem lists_iff (s : Store) (list : Permission → Option (List Text)) (path : Text)
    (role : Json) : lists s list path role = true ↔
      ∃ r, role = .str r ∧ ∃ perm ∈ permissionsOf s r, ∃ elements ∈ list perm,
        path ∈ elements := by
  unfold lists
  by_cases hread : Readable s role
  · obtain ⟨r, rfl, perm, hperm⟩ := (readable_iff s role).mp hread
    rw [rolePermissions_str hperm]
    cases hlist : list perm <;> simp [permissionsOf, hperm, hlist]
  · rw [rolePermissions_error hread]
    rw [readable_iff] at hread
    simp only [Bool.false_eq_true, false_iff]
    rintro ⟨r, rfl, perm, hperm, -⟩
    exact hread ⟨r, rfl, perm, hperm⟩

private theorem any_lists_iff (s : Store) (list : Permission → Option (List Text)) (path : Text)
    (ids : List Text) : (ids.flatMap (rolesOf s)).any (lists s list path) = true ↔
      ∃ id ∈ ids, ∃ r, Holds s id r ∧ ∃ perm ∈ permissionsOf s r, ∃ elements ∈ list perm,
        path ∈ elements := by
  simp only [List.any_eq_true, List.mem_flatMap, lists_iff, Holds]
  constructor
  · rintro ⟨role, ⟨id, hid, hrole⟩, r, rfl, hlists⟩
    exact ⟨id, hid, r, hrole, hlists⟩
  · rintro ⟨id, hid, r, hrole, hlists⟩
    exact ⟨.str r, ⟨id, hid, hrole⟩, r, rfl, hlists⟩

/-- Being allowed, in terms of the roles of the token's identifiers. -/
theorem allowed_iff (s : Store) (token : JwtPayload) (path : Text) :
    (policy s).Allowed token.all path ↔
      ∃ role ∈ token.identifiers.flatMap (rolesOf s), lists s (·.actions) path role := by
  rw [← List.any_eq_true, any_lists_iff]
  rfl

/-- A scan finds the path in the denied list of a role that denies it. -/
theorem lists_notActions_iff (s : Store) (path r : Text) :
    lists s (·.notActions) path (.str r) = true ↔ (policy s).denies r path := by
  rw [lists_iff]
  simp [policy]

/-- Over resolved identifiers the check enforces the policy with the individual's denials. -/
theorem checkToken_permitsHearing {s : Store} {token : JwtPayload} (path : Text)
    (h : ∀ id ∈ token.identifiers, Resolved s id) :
    ∃ answer, checkToken s token path = .ok answer ∧
      (answer = true ↔ (policy s).PermitsHearing token.individual token.all path) := by
  refine ⟨_, checkToken_ok path h, ?_⟩
  rw [Bool.and_eq_true, Bool.not_eq_true', ← Bool.not_eq_true, any_lists_iff, any_lists_iff,
    and_comm]
  simp only [DenyOverrides.Policy.PermitsHearing, DenyOverrides.Policy.Allowed,
    DenyOverrides.Policy.Denied, JwtPayload.individual, JwtPayload.all, policy,
    Set.mem_ofPred_eq, Option.mem_toList, Option.mem_def]

private theorem individual_subset_all (token : JwtPayload) : token.individual ⊆ token.all :=
  fun _ hid => List.mem_append_left _ (Option.mem_toList.mpr hid)

/-- Where every role of the token exists and has permissions, the check decides
deny-overrides exactly when a denial of an allowed path never comes from groups alone. -/
theorem checkAccess_denyOverrides_iff (jwt_decode : Option Text → Except Failure JwtPayload)
    (s : Store) (request : Request) (token : JwtPayload)
    (htoken : decodeToken jwt_decode request = .ok token)
    (hroles : ∀ id ∈ token.identifiers, Resolved s id) :
    DecidesDenyOverrides jwt_decode s request token ↔
      ((policy s).Allowed token.all request.path → (policy s).Denied token.all request.path →
        (policy s).Denied token.individual request.path) := by
  obtain ⟨answer, hcheck, hanswer⟩ := checkToken_permitsHearing request.path hroles
  have haccess : checkAccess jwt_decode s request = .ok answer :=
    (checkAccess_of_decodeToken s htoken).trans hcheck
  rw [← DenyOverrides.Policy.permitsHearing_iff_permits (individual_subset_all token), ← hanswer,
    DecidesDenyOverrides, haccess]
  constructor
  · rintro ⟨htrue, -⟩
    simpa using htrue
  · intro hiff
    refine ⟨by simpa using hiff, fun hnot => ?_⟩
    cases answer with
    | false => rfl
    | true => exact absurd (hiff.mp rfl) hnot

/-! ### A denial by a group -/

/-- The individual `u` holds a role that allows `/app/log`, its group `g` one that denies
it. -/
def groupDenial : Store :=
  { roles := ((∅ : Table IRoleDefinition).insert (text "reader")
        ⟨text "reader", text "Reader", some ⟨some [text "/app/log"], none⟩⟩).insert
      (text "blocked") ⟨text "blocked", text "Blocked", some ⟨none, some [text "/app/log"]⟩⟩
    roleAssignments := ((∅ : Table Json).insert (text "u")
        (.obj [(rolesProperty, .arr [.str (text "reader")])])).insert
      (text "g") (.obj [(rolesProperty, .arr [.str (text "blocked")])])
    idMap := ((∅ : Table Text).insert (text "u") (text "user")).insert (text "g") (text "group")
    groupMap := ∅ }

/-- A request for `/app/log`. -/
def logRequest : Request := bearerRequest (text "/app/log")

/-- The token of the individual `u` as a member of the group `g`. -/
def memberToken : JwtPayload := { oid := some (text "u"), group_ids := some [text "g"] }

private theorem groupDenial_resolved : ∀ id ∈ memberToken.identifiers, Resolved groupDenial id := by
  have hu : getRolesForPrincipal groupDenial (text "u") = some (.arr [.str (text "reader")]) := rfl
  have hg : getRolesForPrincipal groupDenial (text "g") = some (.arr [.str (text "blocked")]) := rfl
  intro id hid
  have hcases : id = text "u" ∨ id = text "g" := by
    simpa [memberToken, JwtPayload.identifiers, JwtPayload.groups] using hid
  rcases hcases with rfl | rfl
  · refine Resolved.of_list hu fun role hrole => ?_
    rw [List.mem_singleton.mp hrole]
    exact ⟨⟨some [text "/app/log"], none⟩, rfl⟩
  · refine Resolved.of_list hg fun role hrole => ?_
    rw [List.mem_singleton.mp hrole]
    exact ⟨⟨none, some [text "/app/log"]⟩, rfl⟩

private theorem groupDenial_denied :
    (policy groupDenial).Denied memberToken.all logRequest.path := by
  have hgroup : text "g" ∈ memberToken.identifiers := by decide
  have hlisted : rolesOf groupDenial (text "g") = [.str (text "blocked")] := rfl
  refine ⟨text "g", hgroup, text "blocked", by simp [policy, Holds, hlisted], ?_⟩
  exact ⟨⟨none, some [text "/app/log"]⟩, rfl, [text "/app/log"], rfl, List.mem_singleton_self _⟩

/-- A path that a role of the group denies is permitted, although every role is there to be
read. -/
theorem groupDenial_permitted :
    decodeToken (fun _ => .ok memberToken) logRequest = .ok memberToken ∧
      (∀ id ∈ memberToken.identifiers, Resolved groupDenial id) ∧
      checkAccess (fun _ => .ok memberToken) groupDenial logRequest = .ok true ∧
      ¬ DecidesDenyOverrides (fun _ => .ok memberToken) groupDenial logRequest memberToken := by
  refine ⟨decodeToken_bearerRequest _ _, groupDenial_resolved, rfl, fun h => ?_⟩
  exact (h.1.mp rfl).2 groupDenial_denied

/-- The token of the group's own identifier, as an individual's. -/
def groupToken : JwtPayload := { oid := some (text "g"), group_ids := none }

/-- A denial by a role of the individual is heard. -/
theorem groupDenial_heard :
    DecidesDenyOverrides (fun _ => .ok groupToken) groupDenial logRequest groupToken := by
  have hg : ∀ id ∈ groupToken.identifiers, id = text "g" := by
    simp [groupToken, JwtPayload.identifiers, JwtPayload.groups]
  have hmember : text "g" ∈ memberToken.identifiers := by decide
  refine (checkAccess_denyOverrides_iff _ groupDenial logRequest groupToken
    (decodeToken_bearerRequest _ _) fun id hid => ?_).mpr ?_
  · rw [hg id hid]
    exact groupDenial_resolved _ hmember
  · rintro - ⟨id, hid, hdenies⟩
    exact ⟨id, congrArg some (hg id hid).symm, hdenies⟩

end CcfIdentity
