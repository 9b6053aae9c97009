import CcfIdentity.Auth.Decision
import CcfIdentity.Base.Refinement
import CcfIdentity.Network.Declared
import CcfIdentity.Rbac.Grants

/-!
# The code against the declared store

Only the first grant of a principal goes through a JSON text. As long as every first grant
names an identifier that stands for itself between quotation marks, the code cannot be told
from the program its interfaces describe: not by its tables, not by the answer of any call
and not by the outcome of any request. The first other grant tells the two apart.
-/

open Utf16

namespace CcfIdentity

/-- A grant to a principal without an assignment, if it is effective, is of a plain role. -/
def PlainFirst (d : Declared) : Event → Prop
  | .rbac (.assignPrincipalToRole r p) => d.roles.contains r → d.idMap.contains p →
    d.roleAssignments[p]? = none → Json.Plain r
  | _ => True

/-- In no state of the run do the tables, the answer of the next call or the outcome of a
request tell the code from the declared program. -/
structure Follows (events : List Event) : Prop where
  tables : ∀ done, done <+: events →
    Runs.run step Store.empty done = (Runs.run Declared.step Declared.empty done).toStore
  answers : ∀ done call, done ++ [.rbac call] <+: events →
    (perform (Runs.run step Store.empty done) call).1 =
      ((Runs.run Declared.step Declared.empty done).perform call).1
  outcomes : ∀ done, done <+: events → ∀ jwt_decode request,
    checkAccess jwt_decode (Runs.run step Store.empty done) request =
      (Runs.run Declared.step Declared.empty done).checkAccess jwt_decode request

namespace Declared

/-! ### Reading the image -/

/-- The entries of the image. -/
theorem entry_toStore (d : Declared) (id : Text) :
    d.toStore.roleAssignments[id]? = d.roleAssignments[id]?.map assignmentJson :=
  Std.ExtTreeMap.getElem?_map

/-- The roles of a declared assignment. -/
theorem property_assignmentJson (assignment : RoleAssignment) :
    (assignmentJson assignment).property rolesProperty =
      some (.arr (assignment.roles.map .str)) := by
  simp [assignmentJson, Json.property]

/-- A push onto a declared assignment. -/
theorem pushRole_assignmentJson (assignment : RoleAssignment) (r : Text) :
    pushRole (assignmentJson assignment) r =
      .ok (assignmentJson ⟨assignment.roles ++ [r]⟩) := by
  simp [pushRole, assignmentJson, Json.setMember]

/-- The image has the roles assigned. -/
theorem rolesOf_toStore (d : Declared) (id : Text) :
    CcfIdentity.rolesOf d.toStore id = (d.rolesOf id).map .str := by
  rw [rolesOf_eq, entry_toStore, rolesOf]
  cases d.roleAssignments[id]? with
  | none => rfl
  | some assignment =>
    rw [Option.map_some]
    simp only [rolesIn, property_assignmentJson]

/-- The image of a table with one more assignment. -/
theorem toStore_assign (d : Declared) (p : Text) (assignment : RoleAssignment) :
    ({ d with roleAssignments := d.roleAssignments.insert p assignment } : Declared).toStore =
      { d.toStore with
        roleAssignments := d.toStore.roleAssignments.insert p (assignmentJson assignment) } := by
  have hmap : (d.roleAssignments.insert p assignment).map (fun _ a => assignmentJson a) =
      (d.roleAssignments.map fun _ a => assignmentJson a).insert p
        (assignmentJson assignment) := by
    apply Std.ExtTreeMap.ext_getElem?
    intro id
    rw [Std.ExtTreeMap.getElem?_map, Table.getElem?_set, Table.getElem?_set,
      Std.ExtTreeMap.getElem?_map]
    split <;> rfl
  rw [toStore, hmap]
  rfl

/-- The image of a table with one assignment less. -/
theorem toStore_revoke (d : Declared) (p : Text) :
    ({ d with roleAssignments := d.roleAssignments.erase p } : Declared).toStore =
      { d.toStore with roleAssignments := d.toStore.roleAssignments.erase p } := by
  have hmap : (d.roleAssignments.erase p).map (fun _ a => assignmentJson a) =
      (d.roleAssignments.map fun _ a => assignmentJson a).erase p := by
    apply Std.ExtTreeMap.ext_getElem?
    intro id
    rw [Std.ExtTreeMap.getElem?_map, Table.getElem?_delete, Table.getElem?_delete,
      Std.ExtTreeMap.getElem?_map]
    split <;> rfl
  rw [toStore, hmap]
  rfl

private theorem roleExists_toStore (d : Declared) (r : Text) :
    roleExists d.toStore r = d.roles.contains r := by
  rw [roleExists, toStore]
  cases d.roles.contains r <;> rfl

private theorem principalExists_toStore (d : Declared) (p : Text) :
    principalExists d.toStore p = d.idMap.contains p := by
  rw [principalExists, toStore]
  cases d.idMap.contains p <;> rfl

/-! ### One call -/

-- Where there is an assignment the code pushes onto its list, as declared.
private theorem assign_later (d : Declared) {r p : Text} {assignment : RoleAssignment}
    (hrole : d.roles.contains r = true) (hprincipal : d.idMap.contains p = true)
    (hentry : d.roleAssignments[p]? = some assignment) :
    CcfIdentity.assignPrincipalToRole d.toStore r p =
      ((d.assignPrincipalToRole r p).1, (d.assignPrincipalToRole r p).2.toStore) := by
  have hstored : d.toStore.roleAssignments[p]? = some (assignmentJson assignment) := by
    rw [entry_toStore, hentry]
    rfl
  have hroles : d.rolesOf p = assignment.roles := by rw [rolesOf, hentry]
  unfold CcfIdentity.assignPrincipalToRole assignPrincipalToRole
  rw [roleExists_toStore, principalExists_toStore, hrole, hprincipal,
    Std.ExtTreeMap.contains_eq_isSome_getElem?, hstored]
  simp [pushRole_assignmentJson, toStore_assign, hroles]

-- Without one it stores what the text denotes, which is the declared list for a plain role.
private theorem assign_first (d : Declared) {r p : Text} (hrole : d.roles.contains r = true)
    (hprincipal : d.idMap.contains p = true) (hentry : d.roleAssignments[p]? = none)
    (hplain : Json.Plain r) :
    CcfIdentity.assignPrincipalToRole d.toStore r p =
      ((d.assignPrincipalToRole r p).1, (d.assignPrincipalToRole r p).2.toStore) := by
  have hstored : d.toStore.roleAssignments[p]? = none := by
    rw [entry_toStore, hentry]
    rfl
  have hroles : d.rolesOf p = [] := by rw [rolesOf, hentry]
  have hparse : Json.parse (grantText r) = some (assignmentJson ⟨[r]⟩) := parse_grantText hplain
  unfold CcfIdentity.assignPrincipalToRole assignPrincipalToRole
  rw [roleExists_toStore, principalExists_toStore, hrole, hprincipal,
    Std.ExtTreeMap.contains_eq_isSome_getElem?, hstored, hparse]
  simp [toStore_assign, hroles]

-- A call on a role or a principal that does not exist is refused with the same message.
private theorem assign_refused (d : Declared) {r p : Text}
    (h : ¬ (d.roles.contains r = true ∧ d.idMap.contains p = true)) :
    CcfIdentity.assignPrincipalToRole d.toStore r p =
      ((d.assignPrincipalToRole r p).1, (d.assignPrincipalToRole r p).2.toStore) := by
  unfold CcfIdentity.assignPrincipalToRole assignPrincipalToRole
  rw [roleExists_toStore, principalExists_toStore]
  cases hrole : d.roles.contains r with
  | false => simp
  | true =>
    have hprincipal : d.idMap.contains p = false :=
      Bool.eq_false_iff.mpr fun hp => h ⟨hrole, hp⟩
    simp [hprincipal]

/-- The code grants as declared where the grant is later or of a plain role. -/
theorem assign_refines (d : Declared) {r p : Text}
    (h : PlainFirst d (.rbac (.assignPrincipalToRole r p))) :
    CcfIdentity.assignPrincipalToRole d.toStore r p =
      ((d.assignPrincipalToRole r p).1, (d.assignPrincipalToRole r p).2.toStore) := by
  by_cases hguard : d.roles.contains r = true ∧ d.idMap.contains p = true
  · cases hentry : d.roleAssignments[p]? with
    | some assignment => exact assign_later d hguard.1 hguard.2 hentry
    | none =>
      exact assign_first d hguard.1 hguard.2 hentry (h hguard.1 hguard.2 hentry)
  · exact assign_refused d hguard

/-- A grant that leaves the declared table is later or of a plain role. -/
theorem plainFirst_of_assign {d : Declared} {r p : Text}
    (h : (CcfIdentity.assignPrincipalToRole d.toStore r p).2 =
      (d.assignPrincipalToRole r p).2.toStore) :
    PlainFirst d (.rbac (.assignPrincipalToRole r p)) := by
  intro hrole hprincipal hentry
  have hstored : d.toStore.roleAssignments[p]? = none := by
    rw [entry_toStore, hentry]
    rfl
  have hlisted : CcfIdentity.rolesOf (d.assignPrincipalToRole r p).2.toStore p = [.str r] := by
    have hroles : d.rolesOf p = [] := by rw [rolesOf, hentry]
    rw [rolesOf_toStore, assignPrincipalToRole, if_pos hrole, if_pos hprincipal, rolesOf]
    simp [hroles]
  rw [← h, rolesOf_assign, if_pos ⟨rfl, by rwa [roleExists_toStore],
    by rwa [principalExists_toStore]⟩, granted, hstored] at hlisted
  have hlisted : spliced r = [.str r] := hlisted
  exact plain_of_mem_spliced (by rw [hlisted]; exact List.mem_singleton_self _)

/-- The code revokes as declared. -/
theorem revoke_refines (d : Declared) (r p : Text) :
    CcfIdentity.removePrincipalFromRole d.toStore r p =
      ((d.removePrincipalFromRole r p).1, (d.removePrincipalFromRole r p).2.toStore) := by
  have hcontains : d.toStore.roleAssignments.contains p = d.roleAssignments.contains p := by
    rw [Std.ExtTreeMap.contains_eq_isSome_getElem?, entry_toStore, Option.isSome_map,
      Std.ExtTreeMap.contains_eq_isSome_getElem?]
  unfold CcfIdentity.removePrincipalFromRole removePrincipalFromRole
  rw [roleExists_toStore, principalExists_toStore, hcontains]
  cases d.roles.contains r with
  | false => simp
  | true =>
    cases d.idMap.contains p with
    | false => simp
    | true =>
      cases d.roleAssignments.contains p with
      | false => simp
      | true => simp [toStore_revoke]

/-- An operation on roles leaves the image of the tables it leaves. -/
theorem role_refines (d : Declared) {call : RbacCall} (h : call.roleId?.isSome) :
    (CcfIdentity.perform d.toStore call).2 =
      ({ d with roles := (CcfIdentity.perform d.toStore call).2.roles } : Declared).toStore := by
  have hassignments := roleCall_frame d.toStore h
  obtain ⟨hprincipals, hgroups⟩ := perform_frame d.toStore call
  exact Store.ext rfl hassignments hprincipals hgroups

/-- One event of the code, from an image, is the declared one exactly under `PlainFirst`. -/
theorem step_refines_iff (d : Declared) (e : Event) :
    CcfIdentity.step d.toStore e = (d.step e).toStore ↔ PlainFirst d e := by
  cases e with
  | governance action =>
    obtain ⟨hroles, hassignments⟩ := govern_frame d.toStore action
    exact iff_of_true (Store.ext hroles hassignments rfl rfl) trivial
  | rbac call =>
    cases call with
    | assignPrincipalToRole r p =>
      exact ⟨plainFirst_of_assign, fun h => congrArg Prod.snd (d.assign_refines h)⟩
    | removePrincipalFromRole r p =>
      exact iff_of_true (congrArg Prod.snd (d.revoke_refines r p)) trivial
    | _ => exact iff_of_true (d.role_refines rfl) trivial

/-- Under `PlainFirst` a call is answered as declared. -/
theorem answer_refines (d : Declared) {call : RbacCall} (h : PlainFirst d (.rbac call)) :
    (CcfIdentity.perform d.toStore call).1 = (d.perform call).1 := by
  cases call with
  | assignPrincipalToRole r p => exact congrArg Prod.fst (d.assign_refines h)
  | removePrincipalFromRole r p => exact congrArg Prod.fst (d.revoke_refines r p)
  | _ => rfl

/-! ### Decisions -/

private theorem readable_toStore (d : Declared) (r : Text) :
    Readable d.toStore (.str r) ↔ (d.permissionsOf r).isSome := by
  rw [readable_iff, Option.isSome_iff_exists]
  constructor
  · rintro ⟨x, hx, hperm⟩
    cases hx
    exact hperm
  · exact fun hperm => ⟨r, rfl, hperm⟩

private theorem lists_toStore (d : Declared) (list : Permission → Option (List Text))
    (path r : Text) :
    CcfIdentity.lists d.toStore list path (.str r) = d.lists list path r := by
  have hperms : CcfIdentity.permissionsOf d.toStore r = d.permissionsOf r := rfl
  rw [CcfIdentity.lists, rolePermissions_eq, lists, hperms]
  cases d.permissionsOf r <;> rfl

private theorem any_map_lists (d : Declared) (list : Permission → Option (List Text))
    (path : Text) (rs : List Text) :
    (rs.map Json.str).any (CcfIdentity.lists d.toStore list path) = rs.any (d.lists list path) := by
  rw [List.any_map]
  exact congrArg rs.any (funext fun r => lists_toStore d list path r)

private theorem flatMap_toStore (d : Declared) (ids : List Text) :
    ids.flatMap (CcfIdentity.rolesOf d.toStore) = (ids.flatMap d.rolesOf).map .str := by
  rw [List.map_flatMap]
  exact congrArg (ids.flatMap ·) (funext fun id => rolesOf_toStore d id)

private theorem all_readable_iff (d : Declared) (rs : List Text) :
    (∀ role ∈ rs.map Json.str, Readable d.toStore role) ↔
      rs.any (fun r => (d.permissionsOf r).isNone) = false := by
  rw [List.any_eq_false, List.forall_mem_map]
  apply forall₂_congr
  intro r _
  rw [readable_toStore, Option.isSome_iff_ne_none, ne_eq, Option.isNone_iff_eq_none]

/-- The code decides as declared. -/
theorem checkToken_toStore (d : Declared) (token : JwtPayload) (path : Text) :
    CcfIdentity.checkToken d.toStore token path = d.checkToken token path := by
  have hlookup : ∀ id v, getRolesForPrincipal d.toStore id = some v → ∃ roles, v = .arr roles := by
    intro id v hv
    rw [getRolesForPrincipal_eq, entry_toStore, Option.bind_map] at hv
    obtain ⟨assignment, -, hassignment⟩ := Option.bind_eq_some_iff.mp hv
    rw [Function.comp_apply, property_assignmentJson] at hassignment
    exact ⟨_, (Option.some.inj hassignment).symm⟩
  have hindividual : individualRoles d.toStore token =
      (token.oid.toList.flatMap d.rolesOf).map .str := flatMap_toStore d _
  have hgroups : groupRoles d.toStore token = (token.groups.flatMap d.rolesOf).map .str :=
    flatMap_toStore d _
  have hanswered : Answered d.toStore token path ↔
      (token.oid.toList.flatMap d.rolesOf).any (fun r => (d.permissionsOf r).isNone) = false ∧
        ((token.oid.toList.flatMap d.rolesOf).any (d.lists (·.notActions) path) = true ∨
          (token.groups.flatMap d.rolesOf).any (fun r => (d.permissionsOf r).isNone) = false) := by
    rw [← all_readable_iff, ← all_readable_iff, ← hindividual, ← hgroups,
      ← any_map_lists, ← hindividual, List.any_eq_true]
    constructor
    · exact fun h => ⟨h.readable, h.denied_or_readable⟩
    · exact fun h => ⟨fun id _ v => hlookup id v, fun oid _ v hv _ => hlookup oid v hv, h.1, h.2⟩
  have hdecision : decision d.toStore token path =
      (!(token.oid.toList.flatMap d.rolesOf).any (d.lists (·.notActions) path) &&
        (token.oid.toList.flatMap d.rolesOf ++ token.groups.flatMap d.rolesOf).any
          (d.lists (·.actions) path)) := by
    rw [decision, identifiers_roles, hindividual, hgroups, ← List.map_append, any_map_lists,
      any_map_lists]
  by_cases h : Answered d.toStore token path
  · rw [checkToken_answered h, hdecision, checkToken]
    obtain ⟨hread, hrest⟩ := hanswered.mp h
    cases hdenied : (token.oid.toList.flatMap d.rolesOf).any (d.lists (·.notActions) path) with
    | true => simp [hread]
    | false =>
      have hgread := hrest.resolve_left (by simp [hdenied])
      simp [hread, hgread]
  · rw [checkToken_unanswered h, checkToken]
    rw [hanswered, not_and_or, not_or, Bool.not_eq_false, Bool.not_eq_false] at h
    rcases h with hread | ⟨hdenied, hgread⟩
    · simp only [hread, ↓reduceIte]
    · simp only [hdenied, hgread, Bool.false_eq_true, ↓reduceIte]
      split <;> rfl

end Declared

/-! ### Runs -/

/-- The code cannot be told from the declared program in a run exactly when every effective
first grant of the run is of a plain role. -/
theorem follows_iff (events : List Event) :
    Follows events ↔ Runs.Guarded Declared.step PlainFirst Declared.empty events := by
  have hempty : Store.empty = Declared.empty.toStore := by
    have hmap : (∅ : Table Json) =
        (∅ : Table RoleAssignment).map fun _ a => Declared.assignmentJson a := rfl
    exact Store.ext rfl hmap rfl rfl
  have hiff := Refinement.follows_iff_guarded Declared.step_refines_iff Declared.empty events
  rw [← hempty] at hiff
  constructor
  · exact fun h => hiff.mp h.tables
  · intro hguarded
    have htables := hiff.mpr hguarded
    refine ⟨htables, fun done call hpre => ?_, fun done hpre jwt_decode request => ?_⟩
    · rw [htables done ((List.prefix_append _ _).trans hpre)]
      exact Declared.answer_refines _ (hguarded done _ hpre)
    · rw [htables done hpre, CcfIdentity.checkAccess, Declared.checkAccess]
      cases decodeToken jwt_decode request with
      | error failure => rfl
      | ok token => exact Declared.checkToken_toStore _ token request.path

end CcfIdentity
