import CcfIdentity.Rbac.Assignments

/-!
# The group look-up

`getRolesForGroups` collects assignments in one loop and their roles in another. Here the
loops are computed: where every entry has a list, the result is the concatenation of the
single look-ups, and one entry whose roles are no list makes the whole look-up throw.
-/

open Utf16

namespace CcfIdentity

/-- The identifier's entry, where it has a `roles` property. -/
def assignmentWithRoles (s : Store) (id : Text) : Option Json :=
  s.roleAssignments[id]?.filter fun assignment => (assignment.property rolesProperty).isSome

/-- The single look-up reads the `roles` of the entry the first loop collects. -/
theorem getRolesForPrincipal_collected (s : Store) (id : Text) :
    getRolesForPrincipal s id =
      (assignmentWithRoles s id).bind (·.property rolesProperty) := by
  rw [getRolesForPrincipal_eq, assignmentWithRoles]
  cases s.roleAssignments[id]? with
  | none => rfl
  | some assignment => cases h : assignment.property rolesProperty <;> simp [h, Option.filter]

/-- The first loop skips exactly the identifiers without roles. -/
theorem assignmentWithRoles_eq_none (s : Store) (id : Text) :
    assignmentWithRoles s id = none ↔ getRolesForPrincipal s id = none := by
  rw [getRolesForPrincipal_eq, assignmentWithRoles]
  cases s.roleAssignments[id]? with
  | none => simp
  | some assignment => cases h : assignment.property rolesProperty <;> simp [h, Option.filter]

private theorem collectAssignment_eq (s : Store) (roles : List Json) (id : Text) :
    collectAssignment s roles id = roles ++ (assignmentWithRoles s id).toList := by
  rw [collectAssignment, assignmentWithRoles, Std.ExtTreeMap.contains_eq_isSome_getElem?]
  cases s.roleAssignments[id]? with
  | none => simp
  | some assignment => cases h : assignment.property rolesProperty <;> simp [h, Option.filter]

/-- The first loop keeps the assignments with roles, in the order of the identifiers. -/
theorem foldl_collectAssignment (s : Store) (ids : List Text) (roles : List Json) :
    ids.foldl (collectAssignment s) roles = roles ++ ids.filterMap (assignmentWithRoles s) := by
  induction ids generalizing roles with
  | nil => simp
  | cons id ids ih =>
    rw [List.foldl_cons, ih, collectAssignment_eq]
    cases h : assignmentWithRoles s id <;> simp [h]

private theorem appendRoles_list {assignment : Json} {roles : List Json} (rroles : List Json)
    (h : assignment.property rolesProperty = some (.arr roles)) :
    appendRoles rroles assignment = .ok (rroles ++ rolesIn assignment) := by
  simp [appendRoles, rolesIn, h, List.foldl_append_eq_append, ← List.flatMap_def]

private theorem appendRoles_error {assignment : Json} (rroles : List Json)
    (h : ∀ roles, assignment.property rolesProperty ≠ some (.arr roles)) :
    appendRoles rroles assignment = .error .typeError := by
  unfold appendRoles
  split
  · next roles hroles => exact absurd hroles (h roles)
  · rfl

/-- The second loop concatenates the lists. -/
theorem foldlM_appendRoles {assignments : List Json}
    (h : ∀ a ∈ assignments, ∃ roles, a.property rolesProperty = some (.arr roles))
    (rroles : List Json) :
    assignments.foldlM appendRoles rroles = .ok (rroles ++ assignments.flatMap rolesIn) := by
  induction assignments generalizing rroles with
  | nil => simp [pure, Except.pure]
  | cons a assignments ih =>
    obtain ⟨roles, hroles⟩ := h a List.mem_cons_self
    have hrest := ih fun b hb => h b (List.mem_cons_of_mem _ hb)
    simp [List.foldlM_cons, appendRoles_list rroles hroles, bind, Except.bind, hrest]

/-- One assignment without a list makes the second loop throw. -/
theorem foldlM_appendRoles_error {assignments : List Json}
    (h : ∃ a ∈ assignments, ∀ roles, a.property rolesProperty ≠ some (.arr roles))
    (rroles : List Json) :
    assignments.foldlM appendRoles rroles = .error .typeError := by
  induction assignments generalizing rroles with
  | nil =>
    obtain ⟨a, ha, -⟩ := h
    cases ha
  | cons a assignments ih =>
    by_cases hlist : ∃ roles, a.property rolesProperty = some (.arr roles)
    · obtain ⟨roles, hroles⟩ := hlist
      have hrest : ∃ b ∈ assignments, ∀ roles, b.property rolesProperty ≠ some (.arr roles) := by
        obtain ⟨b, hb, hnot⟩ := h
        rcases List.mem_cons.mp hb with rfl | hb
        · exact absurd hroles (hnot roles)
        · exact ⟨b, hb, hnot⟩
      simp [List.foldlM_cons, appendRoles_list rroles hroles, bind, Except.bind, ih hrest]
    · have hnot : ∀ roles, a.property rolesProperty ≠ some (.arr roles) :=
        fun roles hroles => hlist ⟨roles, hroles⟩
      simp [List.foldlM_cons, appendRoles_error rroles hnot, bind, Except.bind]

private theorem flatMap_collected (s : Store) (ids : List Text) :
    (ids.filterMap (assignmentWithRoles s)).flatMap rolesIn = ids.flatMap (rolesOf s) := by
  induction ids with
  | nil => rfl
  | cons id ids ih =>
    have hid : rolesOf s id = (assignmentWithRoles s id).toList.flatMap rolesIn := by
      rw [rolesOf, getRolesForPrincipal_collected]
      cases assignmentWithRoles s id <;> simp [rolesIn]
    rw [List.flatMap_cons, hid, ← ih]
    cases h : assignmentWithRoles s id <;> simp [h]

/-- Over entries with lists the look-up is `undefined` when no identifier has an entry, and
the concatenation of the single look-ups otherwise. -/
theorem getRolesForGroups_ok {s : Store} {ids : List Text}
    (h : ∀ id ∈ ids, WellAssigned s id) :
    getRolesForGroups s ids = .ok (if ids.filterMap (getRolesForPrincipal s) = [] then none
      else some (ids.flatMap (rolesOf s))) := by
  have hlists : ∀ a ∈ ids.filterMap (assignmentWithRoles s),
      ∃ roles, a.property rolesProperty = some (.arr roles) := by
    intro a ha
    obtain ⟨id, hid, hcollected⟩ := List.mem_filterMap.mp ha
    cases hv : a.property rolesProperty with
    | none =>
      have hnone : getRolesForPrincipal s id = none := by
        rw [getRolesForPrincipal_collected, hcollected, Option.bind_some, hv]
      rw [(assignmentWithRoles_eq_none s id).mpr hnone] at hcollected
      cases hcollected
    | some v =>
      have hsome : getRolesForPrincipal s id = some v := by
        rw [getRolesForPrincipal_collected, hcollected, Option.bind_some, hv]
      obtain ⟨roles, rfl⟩ := h id hid v hsome
      exact ⟨roles, rfl⟩
  have hnil : ids.filterMap (assignmentWithRoles s) = [] ↔
      ids.filterMap (getRolesForPrincipal s) = [] := by
    simp only [List.filterMap_eq_nil_iff, assignmentWithRoles_eq_none]
  rw [getRolesForGroups, foldl_collectAssignment, List.nil_append]
  by_cases hempty : ids.filterMap (assignmentWithRoles s) = []
  · simp [hempty, hnil.mp hempty]
  · have hsome : ids.filterMap (getRolesForPrincipal s) ≠ [] := fun he => hempty (hnil.mpr he)
    simp [List.length_pos_iff.mpr hempty, foldlM_appendRoles hlists, flatMap_collected, hsome,
      Except.map]

/-- One entry whose roles are not a list makes the look-up throw. -/
theorem getRolesForGroups_error {s : Store} {ids : List Text} {id : Text} (hid : id ∈ ids)
    (h : ¬ WellAssigned s id) : getRolesForGroups s ids = .error .typeError := by
  obtain ⟨v, hv, hnot⟩ : ∃ v, getRolesForPrincipal s id = some v ∧ ∀ roles, v ≠ .arr roles := by
    simpa [WellAssigned] using h
  rw [getRolesForPrincipal_collected] at hv
  obtain ⟨a, ha, hprop⟩ := Option.bind_eq_some_iff.mp hv
  have hmem : a ∈ ids.filterMap (assignmentWithRoles s) := List.mem_filterMap.mpr ⟨id, hid, ha⟩
  have hbad : ∃ a ∈ ids.filterMap (assignmentWithRoles s),
      ∀ roles, a.property rolesProperty ≠ some (.arr roles) := by
    refine ⟨a, hmem, fun roles hroles => ?_⟩
    rw [hprop] at hroles
    exact hnot roles (Option.some.inj hroles)
  rw [getRolesForGroups, foldl_collectAssignment, List.nil_append]
  simp [List.length_pos_of_mem hmem, foldlM_appendRoles_error hbad, Except.map]

/-! ### The law of the look-up -/

/-- A look-up with `undefined` read as the empty list. -/
def orEmpty (found : Except Failure (Option (List Json))) : Except Failure (List Json) :=
  found.map (·.getD [])

/-- For a list of identifiers the group look-up is the concatenation of the single ones:
`undefined` when all of them are, otherwise their lists in order, and it splits with the
list. -/
structure ConcatenatesLookups (s : Store) (ids : List Text) : Prop where
  undefined_iff : getRolesForGroups s ids = .ok none ↔
    ∀ id ∈ ids, getRolesForPrincipal s id = none
  concatenation : (∃ id ∈ ids, getRolesForPrincipal s id ≠ none) →
    getRolesForGroups s ids = .ok (some (ids.flatMap (rolesOf s)))
  append : ∀ xs ys, ids = xs ++ ys → ∃ left right,
    orEmpty (getRolesForGroups s xs) = .ok left ∧ orEmpty (getRolesForGroups s ys) = .ok right ∧
      orEmpty (getRolesForGroups s ids) = .ok (left ++ right)

-- Identifiers without a list contribute nothing.
private theorem flatMap_rolesOf_of_undefined {s : Store} {ids : List Text}
    (h : ids.filterMap (getRolesForPrincipal s) = []) : ids.flatMap (rolesOf s) = [] := by
  rw [List.flatMap_eq_nil_iff]
  intro id hid
  rw [rolesOf, List.filterMap_eq_nil_iff.mp h id hid]

private theorem orEmpty_ok {s : Store} {ids : List Text} (h : ∀ id ∈ ids, WellAssigned s id) :
    orEmpty (getRolesForGroups s ids) = .ok (ids.flatMap (rolesOf s)) := by
  rw [getRolesForGroups_ok h]
  split
  · next hnil =>
    rw [flatMap_rolesOf_of_undefined hnil]
    rfl
  · rfl

private theorem undefined_iff_of_wellAssigned {s : Store} {ids : List Text}
    (h : ∀ id ∈ ids, WellAssigned s id) :
    getRolesForGroups s ids = .ok none ↔ ∀ id ∈ ids, getRolesForPrincipal s id = none := by
  rw [getRolesForGroups_ok h, ← List.filterMap_eq_nil_iff]
  split
  · next hnil => exact iff_of_true rfl hnil
  · next hsome => exact iff_of_false (by simp) hsome

/-- The look-up is the concatenation exactly when no identifier has an entry whose roles
are not a list. -/
theorem concatenatesLookups_iff (s : Store) (ids : List Text) :
    ConcatenatesLookups s ids ↔ ∀ id ∈ ids, WellAssigned s id := by
  constructor
  · intro h id hid
    by_contra hnot
    -- the whole look-up throws, so its two parts have no value to be appended
    obtain ⟨left, right, -, -, happend⟩ := h.append ids [] (List.append_nil ids).symm
    rw [getRolesForGroups_error hid hnot] at happend
    cases happend
  · intro hwell
    refine ⟨undefined_iff_of_wellAssigned hwell, fun hsome => ?_, fun xs ys hsplit => ?_⟩
    · obtain ⟨id, hid, hne⟩ := hsome
      have hnonempty : ids.filterMap (getRolesForPrincipal s) ≠ [] :=
        fun hnil => hne (List.filterMap_eq_nil_iff.mp hnil id hid)
      rw [getRolesForGroups_ok hwell, if_neg hnonempty]
    · subst hsplit
      refine ⟨_, _, orEmpty_ok fun id hid => hwell id (List.mem_append_left ys hid),
        orEmpty_ok fun id hid => hwell id (List.mem_append_right xs hid), ?_⟩
      rw [orEmpty_ok hwell, List.flatMap_append]

/-- An identifier that closes the list it is spliced into and gives `roles` another value. -/
def relisted : Text := text "x\" ], \"roles\": 1, \"y\": [ \""

/-- A registered principal and a role of that identifier. -/
def relistedRole : Store :=
  { roles := (∅ : Table IRoleDefinition).insert relisted
      ⟨relisted, text "relisted", some ⟨some [], some []⟩⟩
    roleAssignments := ∅
    idMap := (∅ : Table Text).insert (text "u") (text "prin1")
    groupMap := ∅ }

/-- After the first grant of the role the single look-up returns a number and the group
look-up throws. -/
theorem relistedRole_throws :
    roleExists relistedRole relisted ∧ principalExists relistedRole (text "u") ∧
      getRolesForPrincipal (assignPrincipalToRole relistedRole relisted (text "u")).2 (text "u") =
        some (.num ⟨false, 1, 0⟩) ∧
      getRolesForGroups (assignPrincipalToRole relistedRole relisted (text "u")).2 [text "u"] =
        .error .typeError ∧
      ¬ ConcatenatesLookups (assignPrincipalToRole relistedRole relisted (text "u")).2
        [text "u"] := by
  have hthrows : getRolesForGroups (assignPrincipalToRole relistedRole relisted (text "u")).2
      [text "u"] = .error .typeError := rfl
  refine ⟨rfl, rfl, rfl, hthrows, fun h => ?_⟩
  obtain ⟨left, right, -, -, happend⟩ := h.append [text "u"] [] rfl
  rw [hthrows] at happend
  cases happend

end CcfIdentity
