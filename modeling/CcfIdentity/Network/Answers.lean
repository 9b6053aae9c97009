import CcfIdentity.Auth.Decision
import CcfIdentity.Network.Steps
import CcfIdentity.Rbac.Grants

/-!
# When the access check answers

The check reads the permissions of every role it meets. It answers every decodable token
exactly when every entry is a list of existing roles with permissions, which the
operations do not ensure: a role may be defined, or redefined, without permissions.
-/

open Utf16

namespace CcfIdentity

/-- Every request with a decodable token is answered. -/
def Answers (s : Store) : Prop :=
  ∀ jwt_decode request token, decodeToken jwt_decode request = .ok token →
    ∃ answer, checkAccess jwt_decode s request = .ok answer

/-- The role exists and has permissions. -/
def HasPermissions (s : Store) (r : Text) : Prop := ∃ perm, permissionsOf s r = some perm

/-- The `roles` of the entry, if any, are a list of existing roles with permissions. -/
def Legible (s : Store) (assignment : Json) : Prop :=
  ∀ v, assignment.property rolesProperty = some v →
    ∃ roles, v = .arr roles ∧ ∀ role ∈ roles, Readable s role

/-- A removed role, or one redefined without permissions, is held by nobody; a granted role
has permissions, and so does every role the text of a first grant lists. -/
def KeepsAnswering (s : Store) : Event → Prop
  | .rbac (.removeRole r) => ∀ id, ¬ Holds s id r
  | .rbac (.updateRole role) =>
    roleExists s role.id → role.permissions = none → ∀ id, ¬ Holds s id role.id
  | .rbac (.assignPrincipalToRole r p) =>
    roleExists s r → principalExists s p →
      match s.roleAssignments[p]? with
      | none => ∀ assignment, Json.parse (grantText r) = some assignment → Legible s assignment
      | some assignment =>
        (∃ roles, assignment.property rolesProperty = some (.arr roles)) → HasPermissions s r
  | _ => True

/-- An identifier is resolved when its entry is legible. -/
theorem resolved_iff_legible (s : Store) (id : Text) :
    Resolved s id ↔ ∀ assignment, s.roleAssignments[id]? = some assignment →
      Legible s assignment := by
  simp only [Resolved, getRolesForPrincipal_eq, Option.bind_eq_some_iff, Legible]
  constructor
  · exact fun h assignment hentry v hv => h v ⟨assignment, hentry, hv⟩
  · rintro h v ⟨assignment, hentry, hv⟩
    exact h assignment hentry v hv

/-- All requests are answered exactly when all identifiers are resolved. -/
theorem answers_iff (s : Store) : Answers s ↔ ∀ id, Resolved s id := by
  constructor
  · intro h id
    by_contra hnot
    have htoken := decodeToken_bearerRequest ⟨none, some [id]⟩ []
    obtain ⟨answer, hanswer⟩ := h _ _ _ htoken
    rw [checkAccess_of_decodeToken s htoken, checkToken_error _ hnot] at hanswer
    cases hanswer
  · intro h jwt_decode request token htoken
    rw [checkAccess_of_decodeToken s htoken]
    exact ⟨_, checkToken_ok request.path fun id _ => h id⟩

/-! ### Permissions after an operation -/

/-- Equal role tables give the same roles to read. -/
theorem readable_congr {s s' : Store} (h : s'.roles = s.roles) (role : Json) :
    Readable s' role ↔ Readable s role := by
  rw [readable_iff, readable_iff, h]

/-- A role can be read when it has permissions. -/
theorem readable_str (s : Store) (r : Text) : Readable s (.str r) ↔ HasPermissions s r := by
  simp [readable_iff, HasPermissions, permissionsOf]

private theorem hasPermissions_addRole {s : Store} {role : IRoleDefinition} {r : Text}
    (h : HasPermissions s r) : HasPermissions (addRole s role).2 r := by
  obtain ⟨perm, hperm⟩ := h
  obtain ⟨stored, hstored, -⟩ := Option.bind_eq_some_iff.mp hperm
  have hexists : roleExists s r := (roleExists_iff s r).mpr ⟨stored, hstored⟩
  refine ⟨perm, ?_⟩
  rw [permissionsOf, role_addRole, if_neg fun hnew => hnew.2 hexists]
  exact hperm

private theorem hasPermissions_removeRole {s : Store} {r₀ r : Text} :
    HasPermissions (removeRole s r₀).2 r ↔ HasPermissions s r ∧ r ≠ r₀ := by
  by_cases hr : r = r₀ <;> simp [HasPermissions, permissionsOf, role_removeRole, hr]

private theorem hasPermissions_updateRole {s : Store} {role : IRoleDefinition} {r : Text}
    (h : HasPermissions s r) : HasPermissions (updateRole s role).2 r ↔
      (r = role.id → roleExists s r → role.permissions ≠ none) := by
  by_cases hupdated : r = role.id ∧ roleExists s r
  · simp [HasPermissions, permissionsOf, role_updateRole, hupdated.1, hupdated.1 ▸ hupdated.2,
      Option.ne_none_iff_exists']
  · have hsame : HasPermissions (updateRole s role).2 r := by
      rwa [HasPermissions, permissionsOf, role_updateRole, if_neg hupdated]
    exact iff_of_true hsame fun hr hexists => absurd ⟨hr, hexists⟩ hupdated

private theorem hasPermissions_edits {s s' : Store} {r₀ r : Text} (hedit : Edits s r₀ s')
    (h : HasPermissions s r) : HasPermissions s' r := by
  rcases hedit with rfl | ⟨role, permissions, -, rfl⟩
  · exact h
  · exact (hasPermissions_updateRole h).mpr fun _ _ => Option.some_ne_none permissions

/-! ### One event -/

-- With the entries unchanged, only the roles they list have to be looked at again.
private theorem resolved_frame {s s' : Store} (h : ∀ id, Resolved s id)
    (hassignments : s'.roleAssignments = s.roleAssignments) :
    (∀ id, Resolved s' id) ↔ ∀ id r, Holds s id r → HasPermissions s' r := by
  have hentry : ∀ id, getRolesForPrincipal s' id = getRolesForPrincipal s id := fun id => by
    rw [getRolesForPrincipal_eq, getRolesForPrincipal_eq, hassignments]
  constructor
  · intro hafter id r hr
    refine (readable_str s' r).mp ((hafter id).readable ?_)
    rwa [rolesOf_congr hassignments]
  · intro hperms id v hv
    rw [hentry] at hv
    obtain ⟨roles, rfl, hread⟩ := h id v hv
    refine ⟨roles, rfl, fun role hrole => ?_⟩
    obtain ⟨r, rfl, -⟩ := (readable_iff s role).mp (hread role hrole)
    exact (readable_str s' r).mpr (hperms id r (by rw [Holds, rolesOf, hv]; exact hrole))

-- An operation that takes no role's permissions away, and no entry, leaves all resolved.
private theorem resolved_kept {s s' : Store} (h : ∀ id, Resolved s id)
    (hassignments : s'.roleAssignments = s.roleAssignments)
    (hperms : ∀ r, HasPermissions s r → HasPermissions s' r) : ∀ id, Resolved s' id := by
  apply (resolved_frame h hassignments).mpr
  intro id r hr
  exact hperms r ((readable_str s r).mp ((h id).readable hr))

private theorem legible_pushed {s : Store} {assignment : Json} (h : Legible s assignment)
    (r : Text) : (∀ pushed, pushRole assignment r = .ok pushed → Legible s pushed) ↔
      ((∃ roles, assignment.property rolesProperty = some (.arr roles)) → HasPermissions s r) := by
  constructor
  · rintro hpushed ⟨roles, hroles⟩
    obtain ⟨pushed, hpush, hlist⟩ := pushRole_list r hroles
    obtain ⟨roles', hroles', hread⟩ := hpushed pushed hpush _ hlist
    cases hroles'
    exact (readable_str s r).mp (hread (.str r) (by simp))
  · intro hperms pushed hpush v hv
    rcases pushRole_ok hpush with ⟨-, rfl⟩ | ⟨roles, hroles, hlist⟩
    · cases hv
    · rw [hlist] at hv
      cases hv
      obtain ⟨roles', hroles', hread⟩ := h _ hroles
      cases hroles'
      refine ⟨_, rfl, fun role hrole => ?_⟩
      rcases List.mem_append.mp hrole with hrole | hrole
      · exact hread role hrole
      · rw [List.mem_singleton.mp hrole]
        exact (readable_str s r).mpr (hperms ⟨roles, hroles⟩)

-- A grant leaves all resolved when the entry it writes, if any, is legible.
private theorem resolved_grant {s : Store} (h : ∀ id, Resolved s id) (r p : Text) :
    (∀ id, Resolved (assignPrincipalToRole s r p).2 id) ↔
      ∀ assignment, grant s r p = some assignment → Legible s assignment := by
  have hlegible : ∀ assignment, Legible (assignPrincipalToRole s r p).2 assignment ↔
      Legible s assignment := fun assignment => by
    simp only [Legible, readable_congr (assign_roles s r p)]
  simp only [resolved_iff_legible, entry_assign, hlegible]
  simp only [resolved_iff_legible] at h
  constructor
  · intro hafter assignment hgrant
    exact hafter p assignment (by simp [hgrant])
  · intro hgrant id assignment hentry
    split at hentry
    · rcases Option.or_eq_some_iff.mp hentry with hnew | ⟨-, hold⟩
      · exact hgrant assignment hnew
      · exact h p assignment hold
    · exact h id assignment hentry

private theorem resolved_assign {s : Store} (h : ∀ id, Resolved s id) (r p : Text) :
    (∀ id, Resolved (assignPrincipalToRole s r p).2 id) ↔
      KeepsAnswering s (.rbac (.assignPrincipalToRole r p)) := by
  rw [resolved_grant h, KeepsAnswering]
  by_cases hguard : roleExists s r ∧ principalExists s p
  · obtain ⟨hrole, hprincipal⟩ := hguard
    simp only [hrole, hprincipal, true_imp_iff]
    cases hentry : s.roleAssignments[p]? with
    | none => rw [grant_first hrole hprincipal hentry]
    | some assignment =>
      have hlegible : Legible s assignment :=
        (resolved_iff_legible s p).mp (h p) assignment hentry
      apply Iff.trans _ (legible_pushed hlegible r)
      rw [grant_later hrole hprincipal hentry]
      cases pushRole assignment r <;> simp [Except.toOption]
  · have hnone : grant s r p = none := if_neg hguard
    constructor
    · intro _ hrole hprincipal
      exact absurd ⟨hrole, hprincipal⟩ hguard
    · intro _ assignment hgrant
      rw [hnone] at hgrant
      cases hgrant

private theorem resolved_revoke {s : Store} (h : ∀ id, Resolved s id) (r p id : Text) :
    Resolved (removePrincipalFromRole s r p).2 id := by
  simp only [resolved_iff_legible, Legible, readable_congr (revoke_roles s r p),
    entry_revoke] at h ⊢
  intro assignment hentry
  split at hentry
  · cases hentry
  · exact h id assignment hentry

private theorem resolved_removeRole {s : Store} (h : ∀ id, Resolved s id) (r₀ : Text) :
    (∀ id, Resolved (removeRole s r₀).2 id) ↔ ∀ id, ¬ Holds s id r₀ := by
  have hframe : (perform s (.removeRole r₀)).2.roleAssignments = s.roleAssignments :=
    roleCall_frame s rfl
  apply (resolved_frame h hframe).trans
  constructor
  · intro hperms id hr
    exact (hasPermissions_removeRole.mp (hperms id r₀ hr)).2 rfl
  · intro hunheld id r hr
    have hbefore : HasPermissions s r := (readable_str s r).mp ((h id).readable hr)
    exact hasPermissions_removeRole.mpr ⟨hbefore, fun heq => hunheld id (heq ▸ hr)⟩

private theorem resolved_updateRole {s : Store} (h : ∀ id, Resolved s id)
    (role : IRoleDefinition) : (∀ id, Resolved (updateRole s role).2 id) ↔
      (roleExists s role.id → role.permissions = none → ∀ id, ¬ Holds s id role.id) := by
  have hframe : (perform s (.updateRole role)).2.roleAssignments = s.roleAssignments :=
    roleCall_frame s rfl
  have hheld : ∀ id r, Holds s id r → HasPermissions s r := fun id r hr =>
    (readable_str s r).mp ((h id).readable hr)
  apply (resolved_frame h hframe).trans
  constructor
  · intro hperms hexists hnone id hr
    exact (hasPermissions_updateRole (hheld id _ hr)).mp (hperms id _ hr) rfl hexists hnone
  · intro hunheld id r hr
    apply (hasPermissions_updateRole (hheld id r hr)).mpr
    intro heq hexists hnone
    exact hunheld (heq ▸ hexists) hnone id (heq ▸ hr)

private theorem resolved_step (s : Store) (e : Event) (h : ∀ id, Resolved s id) :
    (∀ id, Resolved (step s e) id) ↔ KeepsAnswering s e := by
  cases e with
  | governance action =>
    apply iff_of_true (resolved_kept h (govern_frame s action).2 _) trivial
    intro r hperms
    rwa [HasPermissions, permissionsOf, (govern_frame s action).1]
  | rbac call =>
    cases call with
    | addRole role =>
      exact iff_of_true (resolved_kept h (roleCall_frame s rfl) fun r =>
        hasPermissions_addRole) trivial
    | removeRole r₀ => exact resolved_removeRole h r₀
    | updateRole role => exact resolved_updateRole h role
    | assignPrincipalToRole r p => exact resolved_assign h r p
    | removePrincipalFromRole r p => exact iff_of_true (resolved_revoke h r p) trivial
    | addAction r₀ a type =>
      exact iff_of_true (resolved_kept h (roleCall_frame s rfl) fun r =>
        hasPermissions_edits (edits_addAction s r₀ a type)) trivial
    | removeAction r₀ a type =>
      exact iff_of_true (resolved_kept h (roleCall_frame s rfl) fun r =>
        hasPermissions_edits (edits_removeAction s r₀ a type)) trivial

/-- An event keeps the check answering exactly under its condition. -/
theorem answers_step (s : Store) (e : Event) (h : Answers s) :
    Answers (step s e) ↔ KeepsAnswering s e := by
  rw [answers_iff] at h ⊢
  exact resolved_step s e h

/-- The grant of a plain identifier meets its condition when the role has permissions. -/
theorem keepsAnswering_plain {s : Store} {r : Text} (p : Text) (h : Json.Plain r)
    (hperms : HasPermissions s r) : KeepsAnswering s (.rbac (.assignPrincipalToRole r p)) := by
  intro _ _
  split
  · intro assignment hparse v hv
    rw [parse_grantText h] at hparse
    cases hparse
    cases hv
    refine ⟨[.str r], rfl, fun role hrole => ?_⟩
    rw [List.mem_singleton.mp hrole]
    exact (readable_str s r).mpr hperms
  · exact fun _ => hperms

/-- Without assignments every request is answered. -/
theorem answers_enrolled (idMap groupMap : Table Text) :
    Answers (Store.enrolled idMap groupMap) := by
  rw [answers_iff]
  intro id v hv
  simp [getRolesForPrincipal_eq, Store.enrolled] at hv

/-- Every request is answered throughout a run exactly when every event of it meets its
condition. -/
theorem answers_throughout_iff (idMap groupMap : Table Text) (events : List Event) :
    Runs.Throughout step Answers (Store.enrolled idMap groupMap) events ↔
      Runs.Guarded step KeepsAnswering (Store.enrolled idMap groupMap) events :=
  Runs.throughout_iff_guarded answers_step (answers_enrolled idMap groupMap) events

/-- The documented example of a role definition has no permissions; it is granted. -/
def bareRole : List Event :=
  [.rbac (.addRole ⟨text "roleID", text "roleName", none⟩),
    .rbac (.assignPrincipalToRole (text "roleID") (text "u"))]

/-- With the principal registered before the run or at its start, the check of its token
throws at the end. -/
theorem bareRole_throws :
    ¬ Runs.Throughout step Answers
        (Store.enrolled ((∅ : Table Text).insert (text "u") (text "prin1")) ∅) bareRole ∧
      ¬ Runs.Throughout step Answers (Store.enrolled ∅ ∅)
        (.governance (.setServicePrincipal (text "u") (text "prin1")) :: bareRole) := by
  have hthrows : ∀ {s : Store}, checkToken s ⟨some (text "u"), none⟩ (text "/app/log") =
      .error .typeError → ¬ Answers s := by
    intro s herror h
    have htoken := decodeToken_bearerRequest ⟨some (text "u"), none⟩ (text "/app/log")
    obtain ⟨answer, hanswer⟩ := h _ _ _ htoken
    rw [checkAccess_of_decodeToken s htoken] at hanswer
    exact nomatch hanswer.symm.trans herror
  exact ⟨fun h => hthrows rfl (h _ List.prefix_rfl), fun h => hthrows rfl (h _ List.prefix_rfl)⟩

end CcfIdentity
