import CcfIdentity.Json.Parser
import CcfIdentity.Rbac.Roles
import CcfIdentity.Store.Membership

/-!
# Role assignments

The assignment table's operations, `package/src/rbac.ts:107–168` and `:192–230`. A first
grant parses a JSON text the role identifier is spliced into, so the value it stores is
the parser's and need not have the declared shape. Readers follow the code on every JSON
value: a property of a primitive is `undefined`, and iterating anything but an array
throws.
-/

open Utf16

namespace CcfIdentity

/-- The property of an assignment that lists its roles. -/
def rolesProperty : Text := text "roles"

/-- The template literal of a first grant, `package/src/rbac.ts:110`, with its two braces
written as `\x7b` and `\x7d`. -/
def grantText (roleId : Text) : Text := text "\x7b\"roles\": [ \"" ++ roleId ++ text "\" ]\x7d"

/-- `assignment?.roles.push(roleId)`, on the freshly decoded assignment. -/
def pushRole (assignment : Json) (roleId : Text) : Except Failure Json :=
  match assignment with
  | .null => .ok .null
  | .obj members =>
    match members.lookup rolesProperty with
    | some (.arr roles) =>
      .ok (.obj (Json.setMember rolesProperty (.arr (roles ++ [.str roleId])) members))
    | _ => .error .typeError
  | _ => .error .typeError

/-- `package/src/rbac.ts:107–127`. -/
def assignPrincipalToRole (s : Store) (roleId principalId : Text) : Result × Store :=
  if roleExists s roleId && principalExists s principalId then
    if !s.roleAssignments.contains principalId then
      match Json.parse (grantText roleId) with
      | some assignment =>
        (.ok { message := "Role assigned successfully" },
          { s with roleAssignments := s.roleAssignments.insert principalId assignment })
      | none => (.error .syntaxError, s)
    else
      match s.roleAssignments[principalId]? with
      | some assignment =>
        match pushRole assignment roleId with
        | .ok assignment =>
          (.ok { message := "Role assigned successfully" },
            { s with roleAssignments := s.roleAssignments.insert principalId assignment })
        | .error failure => (.error failure, s)
      | none => (.ok { message := "Role assigned successfully" }, s)
  else if !roleExists s roleId then
    (.ok { message := "Role assignment failed, role id passed does not exist." }, s)
  else if !principalExists s principalId then
    (.ok { message := "Role assignment failed, principal id passed does not exist." }, s)
  else
    (.ok { message := "Role assignment failed" }, s)

/-- `package/src/rbac.ts:136–151`. -/
def removePrincipalFromRole (s : Store) (roleId principalId : Text) : Result × Store :=
  if roleExists s roleId && principalExists s principalId then
    if s.roleAssignments.contains principalId then
      (.ok { message := "Role assignment removed" },
        { s with roleAssignments := s.roleAssignments.erase principalId })
    else
      (.ok { message := "Role removal failed" }, s)
  else if !roleExists s roleId then
    (.ok { message := "Role removal failed, role id passed does not exist." }, s)
  else if !principalExists s principalId then
    (.ok { message := "Role removal failed, principal id passed does not exist." }, s)
  else
    (.ok { message := "Role removal failed" }, s)

/-- `package/src/rbac.ts:160–168`. -/
def isInRole (s : Store) (roleId principalId : Text) : Bool :=
  if s.roles.contains roleId then
    match s.roleAssignments[principalId]? with
    | some _ => true
    | none => false
  else false

/-- `package/src/rbac.ts:192–200`; `none` is `undefined`. -/
def getRolesForPrincipal (s : Store) (principal_id : Text) : Option Json :=
  if s.roleAssignments.contains principal_id then
    match s.roleAssignments[principal_id]? with
    | some assignment => assignment.property rolesProperty
    | none => none
  else none

/-- The body of the first loop of `getRolesForGroups`, lines 213–218. -/
def collectAssignment (s : Store) (roles : List Json) (group_id : Text) : List Json :=
  if s.roleAssignments.contains group_id then
    match s.roleAssignments[group_id]? with
    | some assignment =>
      match assignment.property rolesProperty with
      | some _ => roles ++ [assignment]
      | none => roles
    | none => roles
  else roles

/-- The body of the second, lines 223–225. -/
def appendRoles (rroles : List Json) (role : Json) : Except Failure (List Json) :=
  match role.property rolesProperty with
  | some (.arr roles) => .ok (roles.foldl (fun rroles irole => rroles ++ [irole]) rroles)
  | _ => .error .typeError

/-- `package/src/rbac.ts:208–230`: collect the assignments that have roles, then, if there
are any, the roles of each. -/
def getRolesForGroups (s : Store) (group_ids : List Text) : Except Failure (Option (List Json)) :=
  let roles := group_ids.foldl (collectAssignment s) []
  if roles.length > 0 then
    (roles.foldlM appendRoles []).map some
  else .ok none

/-! ### What an assignment lists -/

/-- The elements of an assignment's list of roles; none where it has no list. -/
def rolesIn (assignment : Json) : List Json :=
  match assignment.property rolesProperty with
  | some (.arr roles) => roles
  | _ => []

/-- The elements listed for an identifier, in order and with repetitions. -/
def rolesOf (s : Store) (id : Text) : List Json :=
  match getRolesForPrincipal s id with
  | some (.arr roles) => roles
  | _ => []

/-- The role `r` is listed for the identifier. -/
def Holds (s : Store) (id r : Text) : Prop := .str r ∈ rolesOf s id

/-- What is stored for the identifier, if anything, is a list. -/
def WellAssigned (s : Store) (id : Text) : Prop :=
  ∀ v, getRolesForPrincipal s id = some v → ∃ roles, v = .arr roles

/-- The entry has a list of roles to push onto. -/
def HasList (assignment : Json) : Prop :=
  ∃ roles, assignment.property rolesProperty = some (.arr roles)

/-- The elements a first grant of `r` would list. -/
def spliced (r : Text) : List Json :=
  match Json.parse (grantText r) with
  | some assignment => rolesIn assignment
  | none => []

/-- The look-up reads one entry and one property of it. -/
theorem getRolesForPrincipal_eq (s : Store) (id : Text) :
    getRolesForPrincipal s id = s.roleAssignments[id]?.bind (·.property rolesProperty) := by
  rw [getRolesForPrincipal, Std.ExtTreeMap.contains_eq_isSome_getElem?]
  cases s.roleAssignments[id]? <;> rfl

/-- The elements listed for an identifier are those of its entry. -/
theorem rolesOf_eq (s : Store) (id : Text) :
    rolesOf s id = match s.roleAssignments[id]? with
      | some assignment => rolesIn assignment
      | none => [] := by
  rw [rolesOf, getRolesForPrincipal_eq]
  cases s.roleAssignments[id]? <;> rfl

/-- Only an identifier with an entry holds roles. -/
theorem Holds.entry {s : Store} {id r : Text} (h : Holds s id r) :
    ∃ assignment, s.roleAssignments[id]? = some assignment ∧ .str r ∈ rolesIn assignment := by
  rw [Holds, rolesOf_eq] at h
  split at h
  · next assignment ha => exact ⟨assignment, ha, h⟩
  · cases h

/-! ### What the operations write -/

/-- A successful push appends the role to the list, or leaves a `null` entry alone. -/
theorem pushRole_ok {assignment pushed : Json} {r : Text}
    (h : pushRole assignment r = .ok pushed) :
    (assignment = .null ∧ pushed = .null) ∨
      ∃ roles, assignment.property rolesProperty = some (.arr roles) ∧
        pushed.property rolesProperty = some (.arr (roles ++ [.str r])) := by
  unfold pushRole at h
  split at h
  · cases h
    exact .inl ⟨rfl, rfl⟩
  · next members =>
    split at h
    · next roles hroles =>
      cases h
      exact .inr ⟨roles, hroles, Json.lookup_setMember_self _ _ _⟩
    · cases h
  · cases h

/-- A push onto a list succeeds. -/
theorem pushRole_list {assignment : Json} {roles : List Json} (r : Text)
    (h : assignment.property rolesProperty = some (.arr roles)) :
    ∃ pushed, pushRole assignment r = .ok pushed ∧
      pushed.property rolesProperty = some (.arr (roles ++ [.str r])) := by
  cases assignment with
  | obj members =>
    have hpush : pushRole (.obj members) r =
        .ok (.obj (Json.setMember rolesProperty (.arr (roles ++ [.str r])) members)) := by
      rw [Json.property] at h
      simp only [pushRole, h]
    exact ⟨_, hpush, Json.lookup_setMember_self rolesProperty _ members⟩
  | _ => cases h

/-- The entry `assignPrincipalToRole` writes, if it writes one. -/
def grant (s : Store) (r p : Text) : Option Json :=
  if roleExists s r ∧ principalExists s p then
    match s.roleAssignments[p]? with
    | some assignment => (pushRole assignment r).toOption
    | none => Json.parse (grantText r)
  else none

/-- A first grant writes what its text denotes. -/
theorem grant_first {s : Store} {r p : Text} (hrole : roleExists s r)
    (hprincipal : principalExists s p) (hentry : s.roleAssignments[p]? = none) :
    grant s r p = Json.parse (grantText r) := by
  rw [grant, if_pos ⟨hrole, hprincipal⟩, hentry]

/-- A later grant writes the old entry with the role pushed. -/
theorem grant_later {s : Store} {r p : Text} (hrole : roleExists s r)
    (hprincipal : principalExists s p) {assignment : Json}
    (hentry : s.roleAssignments[p]? = some assignment) :
    grant s r p = (pushRole assignment r).toOption := by
  rw [grant, if_pos ⟨hrole, hprincipal⟩, hentry]

/-- `assignPrincipalToRole` writes the principal's entry only. -/
theorem assignPrincipalToRole_store (s : Store) (r p : Text) :
    (assignPrincipalToRole s r p).2 = { s with
      roleAssignments := match grant s r p with
        | some assignment => s.roleAssignments.insert p assignment
        | none => s.roleAssignments } := by
  unfold assignPrincipalToRole grant
  by_cases hguard : roleExists s r ∧ principalExists s p
  · simp only [hguard, and_self, ↓reduceIte, Bool.and_self,
      Std.ExtTreeMap.contains_eq_isSome_getElem?]
    cases hentry : s.roleAssignments[p]? with
    | none => cases Json.parse (grantText r) <;> rfl
    | some assignment =>
      cases hpush : pushRole assignment r <;> simp [hpush, Except.toOption]
  · have hguard' : (roleExists s r && principalExists s p) = false := by
      simpa [← Bool.not_eq_true] using hguard
    simp only [hguard', hguard, Bool.false_eq_true, ↓reduceIte]
    split_ifs <;> rfl

/-- `removePrincipalFromRole` drops the principal's whole entry, whichever role is named. -/
theorem removePrincipalFromRole_store (s : Store) (r p : Text) :
    (removePrincipalFromRole s r p).2 = { s with
      roleAssignments := if roleExists s r ∧ principalExists s p then s.roleAssignments.erase p
        else s.roleAssignments } := by
  unfold removePrincipalFromRole
  by_cases hguard : roleExists s r ∧ principalExists s p
  · simp only [hguard, and_self, ↓reduceIte, Bool.and_self]
    split
    · rfl
    · next h => rw [Table.delete_absent _ _ h]
  · have hguard' : (roleExists s r && principalExists s p) = false := by
      simpa [← Bool.not_eq_true] using hguard
    simp only [hguard', hguard, Bool.false_eq_true, ↓reduceIte]
    split_ifs <;> rfl

/-! ### What the operations leave listed -/

/-- What an effective grant of `r` leaves listed for the principal. -/
def granted (s : Store) (r p : Text) : List Json :=
  match s.roleAssignments[p]? with
  | none => spliced r
  | some assignment =>
    match assignment.property rolesProperty with
    | some (.arr roles) => roles ++ [.str r]
    | _ => []

/-- Equal assignment tables list the same roles. -/
theorem rolesOf_congr {s s' : Store} (h : s'.roleAssignments = s.roleAssignments) (id : Text) :
    rolesOf s' id = rolesOf s id := by
  rw [rolesOf_eq, rolesOf_eq, h]

/-- Equal assignment tables give the same holdings. -/
theorem holds_congr {s s' : Store} (h : s'.roleAssignments = s.roleAssignments) (id r : Text) :
    Holds s' id r ↔ Holds s id r := by
  rw [Holds, Holds, rolesOf_congr h]

-- A push that throws finds no list, so nothing was listed before it either.
private theorem rolesIn_pushRole (assignment : Json) (r : Text) :
    rolesIn ((pushRole assignment r).toOption.getD assignment) =
      match assignment.property rolesProperty with
      | some (.arr roles) => roles ++ [.str r]
      | _ => [] := by
  cases assignment with
  | obj members =>
    simp only [pushRole, Json.property]
    cases hroles : members.lookup rolesProperty with
    | none => simp [Except.toOption, rolesIn, Json.property, hroles]
    | some v =>
      cases v <;> simp [Except.toOption, rolesIn, Json.property, hroles,
        Json.lookup_setMember_self]
  | _ => rfl

/-- The entries after a grant. -/
theorem entry_assign (s : Store) (r p id : Text) :
    (assignPrincipalToRole s r p).2.roleAssignments[id]? =
      if id = p then (grant s r p).or s.roleAssignments[p]? else s.roleAssignments[id]? := by
  rw [assignPrincipalToRole_store]
  cases grant s r p with
  | none =>
    by_cases hid : id = p
    · subst hid
      simp
    · simp [hid]
  | some assignment =>
    by_cases hid : id = p
    · subst hid
      simp
    · simp [hid, Ne.symm hid, Table.getElem?_set]

/-- The entries after a revocation. -/
theorem entry_revoke (s : Store) (r p id : Text) :
    (removePrincipalFromRole s r p).2.roleAssignments[id]? =
      if id = p ∧ roleExists s r ∧ principalExists s p then none
      else s.roleAssignments[id]? := by
  rw [removePrincipalFromRole_store]
  by_cases hguard : roleExists s r ∧ principalExists s p
  · by_cases hid : id = p
    · subst hid
      simp [hguard]
    · simp [hguard, hid, Ne.symm hid, Table.getElem?_delete]
  · simp [hguard]

/-- A grant changes the principal's list only, and only where role and principal exist. -/
theorem rolesOf_assign (s : Store) (r p id : Text) :
    rolesOf (assignPrincipalToRole s r p).2 id =
      if id = p ∧ roleExists s r ∧ principalExists s p then granted s r p
      else rolesOf s id := by
  rw [rolesOf_eq, rolesOf_eq, entry_assign]
  by_cases hid : id = p
  · subst hid
    by_cases hguard : roleExists s r ∧ principalExists s id
    · simp only [hguard, and_self, ↓reduceIte, grant, granted]
      cases hentry : s.roleAssignments[id]? with
      | none =>
        unfold spliced
        generalize Json.parse (grantText r) = parsed
        cases parsed <;> rfl
      | some assignment =>
        simp only [Option.or_some]
        exact rolesIn_pushRole assignment r
    · simp [grant, hguard]
  · simp [hid]

/-- The role of an effective grant to an identifier with a list is listed after it. -/
theorem mem_granted {s : Store} {r p x : Text} {assignment : Json}
    (hentry : s.roleAssignments[p]? = some assignment) :
    .str x ∈ granted s r p ↔
      Holds s p x ∨ x = r ∧ ∃ roles, assignment.property rolesProperty = some (.arr roles) := by
  rw [granted, hentry, Holds, rolesOf_eq, hentry]
  simp only [rolesIn]
  cases assignment.property rolesProperty with
  | none => simp
  | some v => cases v <;> simp

/-- A revocation empties the principal's list, where role and principal exist. -/
theorem rolesOf_revoke (s : Store) (r p id : Text) :
    rolesOf (removePrincipalFromRole s r p).2 id =
      if id = p ∧ roleExists s r ∧ principalExists s p then [] else rolesOf s id := by
  rw [rolesOf_eq, rolesOf_eq, entry_revoke]
  by_cases heffective : id = p ∧ roleExists s r ∧ principalExists s p
  · rw [if_pos heffective, if_pos heffective]
  · rw [if_neg heffective, if_neg heffective]

end CcfIdentity
