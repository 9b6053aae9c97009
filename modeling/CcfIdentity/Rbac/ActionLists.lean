import CcfIdentity.Rbac.Actions

/-!
# What removing an action leaves

`removeAction` filters the list for the action instead of against it, and writes the role
back under the identifier inside it. It removes the action and nothing else only where
there is nothing to filter.
-/

open Utf16

namespace CcfIdentity

/-- The list an action type names. -/
def ActionType.list : ActionType → Permission → Option (List Text)
  | .allowed, perm => perm.actions
  | .denied, perm => perm.notActions
  | .other, _ => none

/-- The permissions with another list for an action type. -/
def ActionType.put : ActionType → Permission → List Text → Permission
  | .allowed, perm, elements => { perm with actions := some elements }
  | .denied, perm, elements => { perm with notActions := some elements }
  | .other, perm, _ => perm

/-- The role with another list for an action type. -/
def withList (role : IRoleDefinition) (perm : Permission) (type : ActionType)
    (elements : List Text) : IRoleDefinition :=
  { role with permissions := some (type.put perm elements) }

/-- The call deletes every occurrence of the action from the list of its type, and changes
nothing else. -/
structure RemovesExactly (s : Store) (r action : Text) (type : ActionType)
    (role : IRoleDefinition) (perm : Permission) (elements : List Text) : Prop where
  role : (removeAction s r action type).2.roles[r]? =
    some (withList role perm type (elements.filter fun ac => ac ≠ action))
  others : ∀ x, x ≠ r → (removeAction s r action type).2.roles[x]? = s.roles[x]?
  assignments : (removeAction s r action type).2.roleAssignments = s.roleAssignments

/-- The answer once the filtered list is written back. -/
def ActionType.removed : ActionType → String
  | .allowed => "Action successfully removed from allowed permissions"
  | .denied => "Action successfully removed from denied permissions"
  | .other => "Action type invalid."

/-- The call on an existing role, by the list its type names. -/
theorem removeAction_existing {s : Store} {r : Text} {type : ActionType} {role : IRoleDefinition}
    (hrole : s.roles[r]? = some role) (htype : type ≠ .other) (action : Text) :
    removeAction s r action type =
      storeRemoval s role (filterPermissions type.list type.put role.permissions action)
        type.removed := by
  have hexists : roleExists s r = true := (roleExists_iff s r).mpr ⟨role, hrole⟩
  have hget : getRole s r = .inl role := by rw [getRole_eq, hrole]
  unfold removeAction
  cases type with
  | allowed | denied =>
    simp only [hexists, hget, ↓reduceIte]
    rfl
  | other => exact absurd rfl htype

/-- The call on a role that does not exist. -/
theorem removeAction_absent {s : Store} {r : Text} (hrole : s.roles[r]? = none) (action : Text)
    (type : ActionType) :
    removeAction s r action type = (.ok { message := "Role does not exist" }, s) := by
  have habsent : ¬ roleExists s r = true := by simp [roleExists_eq, hrole]
  unfold removeAction
  rw [if_neg habsent]

/-- The call with a number that is no action type. -/
theorem removeAction_other {s : Store} {r : Text} {role : IRoleDefinition}
    (hrole : s.roles[r]? = some role) (action : Text) :
    removeAction s r action .other = (.ok { message := "Action type invalid." }, s) := by
  have hexists : roleExists s r = true := (roleExists_iff s r).mpr ⟨role, hrole⟩
  have hget : getRole s r = .inl role := by rw [getRole_eq, hrole]
  unfold removeAction
  simp only [hexists, hget, ↓reduceIte]

/-- What the call writes back: the occurrences of the action are what it keeps. -/
theorem removeAction_store {s : Store} {r : Text} {type : ActionType} {role : IRoleDefinition}
    {perm : Permission} {elements : List Text} (hrole : s.roles[r]? = some role)
    (hperm : role.permissions = some perm) (hlist : type.list perm = some elements)
    (action : Text) : (removeAction s r action type).2 =
      (updateRole s (withList role perm type (elements.filter fun ac => ac == action))).2 := by
  have htype : type ≠ .other := by
    rintro rfl
    cases hlist
  rw [removeAction_existing hrole htype, hperm]
  simp only [filterPermissions, hlist, storeRemoval, storePermissions, withList]

/-- Unless it filters a list and writes the role back, the call writes nothing. -/
theorem removeAction_cases (s : Store) (r action : Text) (type : ActionType) :
    (removeAction s r action type).2 = s ∨ ∃ role perm elements, s.roles[r]? = some role ∧
      role.permissions = some perm ∧ type.list perm = some elements ∧
      (removeAction s r action type).2 =
        (updateRole s (withList role perm type (elements.filter fun ac => ac == action))).2 := by
  cases hrole : s.roles[r]? with
  | none => exact .inl (by rw [removeAction_absent hrole])
  | some role =>
    by_cases htype : type = .other
    · exact .inl (by rw [htype, removeAction_other hrole])
    · have hcall := removeAction_existing hrole htype action
      cases hperm : role.permissions with
      | none => exact .inl (by rw [hcall, hperm]; rfl)
      | some perm =>
        cases hlist : type.list perm with
        | none =>
          left
          rw [hcall, hperm]
          simp only [filterPermissions, hlist, storeRemoval]
        | some elements =>
          exact .inr ⟨role, perm, elements, rfl, hperm, hlist,
            removeAction_store hrole hperm hlist action⟩

/-- The definitions after the call. -/
theorem role_removeAction {s : Store} {r : Text} {type : ActionType} {role : IRoleDefinition}
    {perm : Permission} {elements : List Text} (hrole : s.roles[r]? = some role)
    (hperm : role.permissions = some perm) (hlist : type.list perm = some elements)
    (action x : Text) : (removeAction s r action type).2.roles[x]? =
      if x = role.id ∧ roleExists s x then
        some (withList role perm type (elements.filter fun ac => ac == action))
      else s.roles[x]? := by
  rw [removeAction_store hrole hperm hlist, role_updateRole]
  rfl

private theorem withList_inj {role : IRoleDefinition} {perm : Permission} {type : ActionType}
    {old xs ys : List Text} (htype : type.list perm = some old)
    (h : withList role perm type xs = withList role perm type ys) : xs = ys := by
  cases type with
  | allowed => simpa [withList, ActionType.put] using h
  | denied => simpa [withList, ActionType.put] using h
  | other => cases htype

private theorem withList_self {role : IRoleDefinition} {perm : Permission} {type : ActionType}
    {elements : List Text} (hperm : role.permissions = some perm)
    (hlist : type.list perm = some elements) : withList role perm type elements = role := by
  cases role
  cases perm
  cases type <;> simp_all [withList, ActionType.put, ActionType.list]

/-- Only an empty list is the same whether the action is kept or deleted. -/
theorem filter_eq_filter_ne {elements : List Text} {action : Text} :
    elements.filter (fun ac => ac == action) = elements.filter (fun ac => ac ≠ action) ↔
      elements = [] := by
  constructor
  · intro h
    apply List.eq_nil_iff_forall_not_mem.mpr
    intro x hx
    by_cases hxa : x = action
    · have hmem : x ∈ elements.filter fun ac => ac == action :=
        List.mem_filter.mpr ⟨hx, by simpa using hxa⟩
      rw [h] at hmem
      simp [hxa] at hmem
    · have hmem : x ∈ elements.filter fun ac => ac ≠ action :=
        List.mem_filter.mpr ⟨hx, by simpa using hxa⟩
      rw [← h] at hmem
      simp [hxa] at hmem
  · rintro rfl
    rfl

private theorem filter_of_absent {elements : List Text} {action : Text}
    (h : action ∉ elements) :
    elements.filter (fun ac => ac == action) = [] ∧
      elements.filter (fun ac => ac ≠ action) = elements := by
  have hne : ∀ x ∈ elements, x ≠ action := fun x hx heq => h (heq ▸ hx)
  exact ⟨by simpa using hne, by simpa using hne⟩

section Removal

variable {s : Store} {r action : Text} {type : ActionType} {role : IRoleDefinition}
  {perm : Permission} {elements : List Text}

-- The edited definition replaces the one the list was read from.
private theorem removesExactly_keyed (hrole : s.roles[r]? = some role)
    (hperm : role.permissions = some perm) (hlist : type.list perm = some elements)
    (hassignments : (removeAction s r action type).2.roleAssignments = s.roleAssignments)
    (hid : role.id = r) :
    RemovesExactly s r action type role perm elements ↔ elements = [] := by
  have hroles := role_removeAction hrole hperm hlist action
  have hwritten : (removeAction s r action type).2.roles[r]? =
      some (withList role perm type (elements.filter fun ac => ac == action)) := by
    rw [hroles, if_pos ⟨hid.symm, (roleExists_iff s r).mpr ⟨role, hrole⟩⟩]
  constructor
  · intro h
    have hsame := withList_inj hlist (Option.some.inj (hwritten.symm.trans h.role))
    exact filter_eq_filter_ne.mp hsame
  · intro hempty
    refine ⟨?_, fun x hx => ?_, hassignments⟩
    · rw [hwritten, filter_eq_filter_ne.mpr hempty]
    · rw [hroles, if_neg fun hx' => hx (hx'.1.trans hid)]

-- The edited definition goes under another identifier, or nowhere.
private theorem removesExactly_misfiled (hrole : s.roles[r]? = some role)
    (hperm : role.permissions = some perm) (hlist : type.list perm = some elements)
    (hassignments : (removeAction s r action type).2.roleAssignments = s.roleAssignments)
    (hid : role.id ≠ r) :
    RemovesExactly s r action type role perm elements ↔ action ∉ elements ∧
      ∀ other, s.roles[role.id]? = some other → other = withList role perm type [] := by
  have hroles := role_removeAction hrole hperm hlist action
  have hkept : (removeAction s r action type).2.roles[r]? = some role := by
    rw [hroles, if_neg fun h => hid h.1.symm, hrole]
  constructor
  · intro h
    have habsent : action ∉ elements := by
      have hsame : withList role perm type elements =
          withList role perm type (elements.filter fun ac => ac ≠ action) := by
        rw [withList_self hperm hlist]
        exact Option.some.inj (hkept.symm.trans h.role)
      rw [withList_inj hlist hsame]
      simp
    refine ⟨habsent, fun other hother => ?_⟩
    have hunchanged := h.others role.id hid
    rw [hroles, if_pos ⟨rfl, (roleExists_iff s role.id).mpr ⟨other, hother⟩⟩, hother,
      (filter_of_absent habsent).1] at hunchanged
    exact (Option.some.inj hunchanged).symm
  · rintro ⟨habsent, hother⟩
    obtain ⟨hnone, hall⟩ := filter_of_absent habsent
    refine ⟨by rw [hkept, hall, withList_self hperm hlist], fun x _ => ?_, hassignments⟩
    rw [hroles]
    split
    · next hwritten =>
      obtain ⟨rfl, hexists⟩ := hwritten
      obtain ⟨other, hstored⟩ := (roleExists_iff s _).mp hexists
      rw [hstored, hother other hstored, hnone]
    · rfl

/-- The call removes exactly the action only from an empty list; where the role is stored
under another's identifier, only when the action does not occur and the other role, if
any, is already what it would be overwritten with. -/
theorem removesExactly_iff (hrole : s.roles[r]? = some role)
    (hperm : role.permissions = some perm) (hlist : type.list perm = some elements) :
    RemovesExactly s r action type role perm elements ↔
      (role.id = r ∧ elements = []) ∨
        (role.id ≠ r ∧ action ∉ elements ∧
          ∀ other, s.roles[role.id]? = some other → other = withList role perm type []) := by
  have hassignments : (removeAction s r action type).2.roleAssignments = s.roleAssignments := by
    rw [(edits_removeAction s r action type).frame]
  by_cases hid : role.id = r
  · simpa [hid] using removesExactly_keyed hrole hperm hlist hassignments hid
  · simpa [hid] using removesExactly_misfiled hrole hperm hlist hassignments hid

end Removal

/-- A role with two allowed actions, stored under its own identifier. -/
def twoActions : Store :=
  { Store.empty with
    roles := (∅ : Table IRoleDefinition).insert (text "id1")
      ⟨text "id1", text "name1", some ⟨some [text "/log/get", text "/log/put"], some []⟩⟩ }

/-- Removing one of the two actions leaves the removed one and drops the other. -/
theorem twoActions_wrong_one_kept :
    (removeAction twoActions (text "id1") (text "/log/get") .allowed).2.roles[text "id1"]? =
        some ⟨text "id1", text "name1", some ⟨some [text "/log/get"], some []⟩⟩ ∧
      ¬ RemovesExactly twoActions (text "id1") (text "/log/get") .allowed
        ⟨text "id1", text "name1", some ⟨some [text "/log/get", text "/log/put"], some []⟩⟩
        ⟨some [text "/log/get", text "/log/put"], some []⟩ [text "/log/get", text "/log/put"] := by
  have hleft : (removeAction twoActions (text "id1") (text "/log/get") .allowed).2.roles[text
      "id1"]? = some ⟨text "id1", text "name1", some ⟨some [text "/log/get"], some []⟩⟩ := rfl
  refine ⟨hleft, fun h => ?_⟩
  have hright := h.role
  rw [hleft] at hright
  revert hright
  decide

/-- From an empty list the call removes nothing, as it should. -/
theorem twoActions_nothing_denied :
    RemovesExactly twoActions (text "id1") (text "/log/get") .denied
        ⟨text "id1", text "name1", some ⟨some [text "/log/get", text "/log/put"], some []⟩⟩
        ⟨some [text "/log/get", text "/log/put"], some []⟩ [] :=
  (removesExactly_iff rfl rfl rfl).mpr (.inl ⟨rfl, rfl⟩)

end CcfIdentity
