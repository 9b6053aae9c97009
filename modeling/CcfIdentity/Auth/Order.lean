import CcfIdentity.Auth.Policy

/-!
# Order and repetition

The check goes through lists in three places: the groups of the token, the roles of an
entry, and the actions of a role. Each may be replaced by a list with the same members, in
any order and with any repetitions, and the outcome is the same, a failure included.
-/

open Utf16

namespace CcfIdentity

/-- The same members, in whatever order and however often. -/
def SameMembers {α : Type} (xs ys : List α) : Prop := ∀ x, x ∈ xs ↔ x ∈ ys

/-- Both lists of the permissions have the same members, or are missing on both sides. -/
structure SamePermission (perm perm' : Permission) : Prop where
  actions : Option.Rel SameMembers perm.actions perm'.actions
  notActions : Option.Rel SameMembers perm.notActions perm'.notActions

/-- The roles have the same permissions up to order and repetition. -/
def SameRole (role role' : IRoleDefinition) : Prop :=
  Option.Rel SamePermission role.permissions role'.permissions

/-- Two values of the `roles` property: the same one, or lists with the same members. -/
inductive SameListed : Option Json → Option Json → Prop where
  | refl (v : Option Json) : SameListed v v
  | list {roles roles' : List Json} :
      SameMembers roles roles' → SameListed (some (.arr roles)) (some (.arr roles'))

/-- The assignments list the same roles up to order and repetition. -/
def SameAssignment (assignment assignment' : Json) : Prop :=
  SameListed (assignment.property rolesProperty) (assignment'.property rolesProperty)

/-- The stores have the same roles and assignments up to order and repetition. -/
structure SameStore (s s' : Store) : Prop where
  roles : ∀ r : Text, Option.Rel SameRole s.roles[r]? s'.roles[r]?
  assignments : ∀ id : Text,
    Option.Rel SameAssignment s.roleAssignments[id]? s'.roleAssignments[id]?

/-- The tokens have the same `oid` and the same groups up to order and repetition. -/
structure SameToken (token token' : JwtPayload) : Prop where
  oid : token.oid = token'.oid
  group_ids : Option.Rel SameMembers token.group_ids token'.group_ids

/-- Two decodings: the same failure, or tokens that are the same up to order and
repetition. -/
inductive SameDecoding : Except Failure JwtPayload → Except Failure JwtPayload → Prop where
  | error (failure : Failure) : SameDecoding (.error failure) (.error failure)
  | ok {token token' : JwtPayload} : SameToken token token' → SameDecoding (.ok token) (.ok token')

/-! ### Replacements -/

private theorem rel_refl {α : Type} {R : α → α → Prop} (h : ∀ a, R a a) (x : Option α) :
    Option.Rel R x x := by
  cases x with
  | none => exact .none
  | some a => exact .some (h a)

private theorem sameRole_refl (role : IRoleDefinition) : SameRole role role := by
  have hmembers : ∀ xs : List Text, SameMembers xs xs := fun xs x => Iff.rfl
  exact rel_refl (fun perm => ⟨rel_refl hmembers _, rel_refl hmembers _⟩) _

private theorem rel_set {V : Type} {R : V → V → Prop} (hrefl : ∀ v, R v v) {t : Table V}
    {k : Text} {v v' : V} (hk : t[k]? = some v) (h : R v v') (a : Text) :
    Option.Rel R t[a]? (t.insert k v')[a]? := by
  rw [Table.getElem?_set]
  split
  · next ha =>
    rw [← ha, hk]
    exact .some h
  · exact rel_refl hrefl _

/-- Replacing the list of one entry. -/
theorem SameStore.set_assignment {s : Store} {id : Text} {assignment assignment' : Json}
    (hentry : s.roleAssignments[id]? = some assignment) (h : SameAssignment assignment assignment') :
    SameStore s { s with roleAssignments := s.roleAssignments.insert id assignment' } where
  roles _ := rel_refl sameRole_refl _
  assignments := rel_set (fun _ => .refl _) hentry h

section Same

variable {s s' : Store}

/-! ### Look-ups -/

private theorem sameListed_lookup (h : SameStore s s') (id : Text) :
    SameListed (getRolesForPrincipal s id) (getRolesForPrincipal s' id) := by
  rw [getRolesForPrincipal_eq, getRolesForPrincipal_eq]
  have hentry := h.assignments id
  generalize s.roleAssignments[id]? = entry at hentry ⊢
  generalize s'.roleAssignments[id]? = entry' at hentry ⊢
  cases hentry with
  | none => exact .refl none
  | some hsame => exact hsame

private theorem mem_rolesOf_iff (h : SameStore s s') (id : Text) (role : Json) :
    role ∈ rolesOf s id ↔ role ∈ rolesOf s' id := by
  have hlooked := sameListed_lookup h id
  rw [rolesOf, rolesOf]
  generalize getRolesForPrincipal s id = v at hlooked ⊢
  generalize getRolesForPrincipal s' id = v' at hlooked ⊢
  cases hlooked with
  | refl => rfl
  | list hsame => exact hsame role

-- A predicate of the looked-up value that holds of every list does not tell the two apart.
private theorem looked_iff (h : SameStore s s') (id : Text) {Q : Json → Prop}
    (hlist : ∀ roles, Q (.arr roles)) :
    (∀ v, getRolesForPrincipal s id = some v → Q v) ↔
      ∀ v, getRolesForPrincipal s' id = some v → Q v := by
  have hlooked := sameListed_lookup h id
  generalize getRolesForPrincipal s id = v at hlooked ⊢
  generalize getRolesForPrincipal s' id = v' at hlooked ⊢
  cases hlooked with
  | refl => rfl
  | list hsame =>
    constructor <;>
    · intro _ v hv
      exact Option.some.inj hv ▸ hlist _

private theorem wellAssigned_iff (h : SameStore s s') (id : Text) :
    WellAssigned s id ↔ WellAssigned s' id := looked_iff h id fun roles => ⟨roles, rfl⟩

/-! ### Permissions -/

private theorem samePermissions (h : SameStore s s') (r : Text) :
    Option.Rel SamePermission (permissionsOf s r) (permissionsOf s' r) := by
  rw [permissionsOf, permissionsOf]
  have hrole := h.roles r
  generalize s.roles[r]? = role at hrole ⊢
  generalize s'.roles[r]? = role' at hrole ⊢
  cases hrole with
  | none => exact .none
  | some hsame => exact hsame

private theorem rel_exists {α : Type} {R : α → α → Prop} {x y : Option α} {P Q : α → Prop}
    (h : Option.Rel R x y) (hR : ∀ a b, R a b → (P a ↔ Q b)) : (∃ a ∈ x, P a) ↔ ∃ b ∈ y, Q b := by
  cases h with
  | none => simp
  | some hab => simpa using hR _ _ hab

private theorem readable_same (h : SameStore s s') (role : Json) :
    Readable s role ↔ Readable s' role := by
  rw [readable_iff, readable_iff]
  apply exists_congr
  intro r
  apply and_congr_right
  intro _
  have hexists := rel_exists (P := fun _ => True) (Q := fun _ => True) (samePermissions h r)
    fun _ _ _ => Iff.rfl
  simpa [permissionsOf] using hexists

private theorem lists_same (h : SameStore s s') {list : Permission → Option (List Text)}
    (hlist : ∀ perm perm', SamePermission perm perm' →
      Option.Rel SameMembers (list perm) (list perm'))
    (path : Text) (role : Json) : lists s list path role = lists s' list path role := by
  rw [Bool.eq_iff_iff, lists_iff, lists_iff]
  apply exists_congr
  intro r
  apply and_congr_right
  intro _
  apply rel_exists (samePermissions h r)
  intro perm perm' hperm
  exact rel_exists (hlist perm perm' hperm) fun xs ys hsame => hsame path

/-! ### Outcomes -/

private theorem mem_groups_iff {token token' : JwtPayload} (h : SameToken token token')
    (id : Text) : id ∈ token.groups ↔ id ∈ token'.groups := by
  rw [JwtPayload.groups, JwtPayload.groups]
  have hids := h.group_ids
  generalize token.group_ids = ids at hids ⊢
  generalize token'.group_ids = ids' at hids ⊢
  cases hids with
  | none => rfl
  | some hsame => exact hsame id

/-- Stores and tokens that are the same up to order and repetition are the same to the
check. -/
theorem alike_of_same (h : SameStore s s') {token token' : JwtPayload}
    (htoken : SameToken token token') (path : Text) : Alike s s' token token' path := by
  constructor
  case groups =>
    exact forall_congr' fun id => imp_congr (mem_groups_iff htoken id) (wellAssigned_iff h id)
  case individual =>
    rw [Scannable, Scannable, ← htoken.oid]
    exact forall₂_congr fun oid _ => looked_iff h oid fun roles _ => ⟨roles, rfl⟩
  case ofIndividual =>
    intro role
    rw [mem_individualRoles, mem_individualRoles, ← htoken.oid]
    exact exists_congr fun oid => and_congr_right fun _ => mem_rolesOf_iff h oid role
  case ofGroups =>
    intro role
    rw [mem_groupRoles, mem_groupRoles]
    exact exists_congr fun id => and_congr (mem_groups_iff htoken id) (mem_rolesOf_iff h id role)
  case readable => exact fun role _ => readable_same h role
  case denies => exact fun role _ => lists_same h (fun _ _ hperm => hperm.notActions) path role
  case allows => exact fun role _ => lists_same h (fun _ _ hperm => hperm.actions) path role

/-- The outcome of a request depends on no list's order and on no repetition in it: not on
the token's groups', an entry's roles' or a role's actions'. -/
theorem checkAccess_same (jwt_decode jwt_decode' : Option Text → Except Failure JwtPayload)
    {request request' : Request} (hstore : SameStore s s') (hpath : request.path = request'.path)
    (hdecoding : SameDecoding (decodeToken jwt_decode request) (decodeToken jwt_decode' request')) :
    checkAccess jwt_decode s request = checkAccess jwt_decode' s' request' := by
  rw [checkAccess, checkAccess, hpath]
  generalize decodeToken jwt_decode request = decoded at hdecoding ⊢
  generalize decodeToken jwt_decode' request' = decoded' at hdecoding ⊢
  cases hdecoding with
  | error failure => rfl
  | ok htoken => exact (alike_of_same hstore htoken request'.path).checkToken_eq

end Same

/-- The group is claimed twice and the individual's role is listed twice: the outcome is the
one for the lists without repetitions. -/
theorem groupDenial_repeated :
    checkAccess (fun _ => .ok memberToken) groupDenial logRequest =
      checkAccess (fun _ => .ok { memberToken with group_ids := some [text "g", text "g"] })
        { groupDenial with
          roleAssignments := groupDenial.roleAssignments.insert (text "u")
            (.obj [(rolesProperty, .arr [.str (text "reader"), .str (text "reader")])]) }
        logRequest := by
  apply checkAccess_same
  · apply SameStore.set_assignment rfl
    exact .list fun role => by simp
  · rfl
  · rw [logRequest, decodeToken_bearerRequest, decodeToken_bearerRequest]
    exact .ok ⟨rfl, .some fun id => by simp⟩

end CcfIdentity
