import CcfIdentity.Rbac.ActionLists

/-!
# What adding an action leaves

`addAction` takes for granted that the list it looks in is there, and asks for the allowed
list before it extends the denied one. It adds the action and nothing else only where both
agree with the role's shape.
-/

open Utf16

namespace CcfIdentity

/-- The edit of a role's permissions; `none` where there is nothing to write. -/
def ActionType.edit : ActionType → Option Permission → Text → Except Failure (Option Permission)
  | .allowed => editPermissions (·.actions) pushAllowed
  | .denied => editPermissions (·.notActions) pushDenied
  | .other => fun _ _ => .ok none

/-- The answer where there is nothing to write. -/
def ActionType.present : ActionType → String
  | .allowed => "Action is already defined in the allowed permissions."
  | .denied => "Action is already defined in the denied permissions."
  | .other => "Action type invalid."

/-- The answer once the role is written back. -/
def ActionType.added : ActionType → String
  | .allowed => "Action successfully added to allowed permissions"
  | .denied => "Action successfully added to denied permissions"
  | .other => "Action type invalid."

/-- The call on an existing role. -/
theorem addAction_existing {s : Store} {r : Text} {role : IRoleDefinition}
    (hrole : s.roles[r]? = some role) (action : Text) (type : ActionType) :
    addAction s r action type =
      storeAddition s role (type.edit role.permissions action) type.present type.added := by
  have hexists : roleExists s r = true := (roleExists_iff s r).mpr ⟨role, hrole⟩
  have hget : getRole s r = .inl role := by rw [getRole_eq, hrole]
  unfold addAction
  cases type <;> simp only [hexists, hget, ↓reduceIte] <;> rfl

/-- The call on a role that does not exist. -/
theorem addAction_absent {s : Store} {r : Text} (hrole : s.roles[r]? = none) (action : Text)
    (type : ActionType) :
    addAction s r action type = (.ok { message := "Role does not exist" }, s) := by
  have habsent : ¬ roleExists s r = true := by simp [roleExists_eq, hrole]
  unfold addAction
  rw [if_neg habsent]

/-- Unless it edits the permissions and writes the role back, the call writes nothing. -/
theorem addAction_cases (s : Store) (r action : Text) (type : ActionType) :
    (addAction s r action type).2 = s ∨ ∃ role permissions, s.roles[r]? = some role ∧
      type.edit role.permissions action = .ok (some permissions) ∧
      (addAction s r action type).2 =
        (updateRole s { role with permissions := some permissions }).2 := by
  cases hrole : s.roles[r]? with
  | none => exact .inl (by rw [addAction_absent hrole])
  | some role =>
    rw [addAction_existing hrole]
    cases hedit : type.edit role.permissions action with
    | error failure => exact .inl rfl
    | ok permissions? =>
      cases permissions? with
      | none => exact .inl rfl
      | some permissions => exact .inr ⟨role, permissions, rfl, hedit, rfl⟩

/-! ### The edit -/

/-- The list an edit writes: the denied list starts over where there is no allowed list. -/
def ActionType.extended (type : ActionType) (perm : Permission) (elements : List Text)
    (action : Text) : List Text :=
  if type = .denied ∧ perm.actions = none then [action] else elements ++ [action]

/-- Without permissions the edit starts from two empty lists. -/
theorem edit_none {type : ActionType} (htype : type ≠ .other) (action : Text) :
    type.edit none action = .ok (some (type.put ⟨some [], some []⟩ [action])) := by
  cases type with
  | allowed | denied => rfl
  | other => exact absurd rfl htype

/-- Without the list of its type the edit throws. -/
theorem edit_missing {type : ActionType} {perm : Permission} (htype : type ≠ .other)
    (hlist : type.list perm = none) (action : Text) :
    type.edit (some perm) action = .error .typeError := by
  cases type with
  | allowed | denied =>
    rw [ActionType.list] at hlist
    simp [ActionType.edit, editPermissions, hlist]
  | other => exact absurd rfl htype

/-- With the list of its type the edit looks there first and writes another list if it has
to. -/
theorem edit_list {type : ActionType} {perm : Permission} {elements : List Text}
    (hlist : type.list perm = some elements) (action : Text) :
    type.edit (some perm) action = .ok (if action ∈ elements then none
      else some (type.put perm (type.extended perm elements action))) := by
  have hany : (elements.any fun element => element == action) = decide (action ∈ elements) := by
    rw [List.any_beq']
    simp
  cases type with
  | allowed =>
    rw [ActionType.list] at hlist
    simp only [ActionType.edit, editPermissions, hlist, hany, decide_eq_true_eq]
    split <;> simp [pushAllowed, hlist, Except.map, ActionType.extended, ActionType.put]
  | denied =>
    rw [ActionType.list] at hlist
    simp only [ActionType.edit, editPermissions, hlist, hany, decide_eq_true_eq]
    split
    · rfl
    · cases hactions : perm.actions <;>
        simp [pushDenied, hlist, hactions, Except.map, ActionType.extended, ActionType.put]
  | other => cases hlist

/-! ### What an edit does to the entries -/

/-- The entries of one list of a role's permissions; a missing list has none. -/
def entries (type : ActionType) (permissions : Option Permission) : List Text :=
  (permissions.bind type.list).getD []

/-- The entries in terms of the lists. -/
theorem mem_entries (type : ActionType) (permissions : Option Permission) (x : Text) :
    x ∈ entries type permissions ↔
      ∃ perm ∈ permissions, ∃ elements ∈ type.list perm, x ∈ elements := by
  rw [entries]
  cases permissions with
  | none => simp
  | some perm => cases hlist : type.list perm <;> simp [hlist]

/-- The list of another type is not written. -/
theorem entries_put {type type' : ActionType} (h : type' ≠ type) (perm : Permission)
    (elements : List Text) :
    entries type' (some (type.put perm elements)) = entries type' (some perm) := by
  cases type <;> cases type' <;> first | rfl | exact absurd rfl h

/-- The list just written. -/
theorem list_put {type : ActionType} (htype : type ≠ .other) (perm : Permission)
    (elements : List Text) : type.list (type.put perm elements) = some elements := by
  cases type with
  | allowed | denied => rfl
  | other => exact absurd rfl htype

/-- The denied list is there without an allowed one, and an edit of its type starts it over. -/
def Rebuilds (type : ActionType) (permissions : Option Permission) : Prop :=
  type = .denied ∧ ∃ perm ∈ permissions, perm.actions = none

/-- The edit writes one new action to the list of its type, after the old entries or in
their place. -/
structure Edited (type : ActionType) (action : Text) (permissions : Option Permission)
    (edited : Permission) : Prop where
  new : action ∉ entries type permissions
  others : ∀ type', type' ≠ type → entries type' (some edited) = entries type' permissions
  extended : ¬ Rebuilds type permissions →
    entries type (some edited) = entries type permissions ++ [action]
  rebuilt : Rebuilds type permissions → entries type (some edited) = [action]

/-- Whatever an edit writes is such an edit. -/
theorem edited_of_edit {type : ActionType} {permissions : Option Permission} {action : Text}
    {edited : Permission} (hedit : type.edit permissions action = .ok (some edited)) :
    Edited type action permissions edited := by
  have htype : type ≠ .other := by
    rintro rfl
    cases hedit
  have hput : ∀ perm elements, entries type (some (type.put perm elements)) = elements := by
    intro perm elements
    rw [entries, Option.bind_some, list_put htype, Option.getD_some]
  cases permissions with
  | none =>
    rw [edit_none htype] at hedit
    cases hedit
    refine ⟨List.not_mem_nil, fun type' h => ?_, fun _ => hput _ _, fun h => ?_⟩
    · rw [entries_put h]
      cases type' <;> rfl
    · obtain ⟨-, perm, hperm, -⟩ := h
      cases hperm
  | some perm =>
    cases hlist : type.list perm with
    | none =>
      rw [edit_missing htype hlist] at hedit
      cases hedit
    | some elements =>
      have hentries : entries type (some perm) = elements := by
        rw [entries, Option.bind_some, hlist, Option.getD_some]
      have hrebuilds : Rebuilds type (some perm) ↔ type = .denied ∧ perm.actions = none := by
        simp [Rebuilds]
      rw [edit_list hlist, Except.ok.injEq] at hedit
      split at hedit
      · cases hedit
      · next hnew =>
        cases hedit
        refine ⟨hentries ▸ hnew, fun type' h => entries_put h _ _, fun h => ?_, fun h => ?_⟩
        · rw [hput, hentries, ActionType.extended, if_neg (hrebuilds.not.mp h)]
        · rw [hput, ActionType.extended, if_pos (hrebuilds.mp h)]

/-! ### Adding exactly one action -/

/-- The call answers; an action already in the list of its type is reported and nothing is
written, another is appended to that list and nothing else changes. -/
structure AddsExactly (s : Store) (r action : Text) (type : ActionType)
    (role : IRoleDefinition) : Prop where
  answers : ∃ answer, (addAction s r action type).1 = .ok answer
  present : action ∈ entries type role.permissions →
    addAction s r action type = (.ok { message := type.present }, s)
  added : action ∉ entries type role.permissions → ∃ permissions,
    (addAction s r action type).2.roles[r]? = some { role with permissions := some permissions } ∧
      type.list permissions = some (entries type role.permissions ++ [action]) ∧
      ∀ type', type' ≠ type → entries type' (some permissions) = entries type' role.permissions
  others : ∀ x, x ≠ r → (addAction s r action type).2.roles[x]? = s.roles[x]?

section Addition

variable {s : Store} {r action : Text} {type : ActionType} {role : IRoleDefinition}

/-- The definitions after a call that writes. -/
theorem role_addAction (hrole : s.roles[r]? = some role) {permissions : Permission}
    (hedit : type.edit role.permissions action = .ok (some permissions)) (x : Text) :
    (addAction s r action type).2.roles[x]? =
      if x = role.id ∧ roleExists s x then some { role with permissions := some permissions }
      else s.roles[x]? := by
  rw [addAction_existing hrole, hedit, storeAddition, storePermissions, role_updateRole]

-- What is written for `r` is the edited role only where that is the role's own identifier.
private theorem addsExactly_written (hrole : s.roles[r]? = some role) {permissions : Permission}
    (hedit : type.edit role.permissions action = .ok (some permissions))
    (hnew : action ∉ entries type role.permissions)
    (hothers : ∀ type', type' ≠ type →
      entries type' (some permissions) = entries type' role.permissions) :
    AddsExactly s r action type role ↔ role.id = r ∧
      type.list permissions = some (entries type role.permissions ++ [action]) := by
  have hroles := role_addAction hrole hedit
  have hexists : roleExists s r = true := (roleExists_iff s r).mpr ⟨role, hrole⟩
  constructor
  · intro h
    obtain ⟨permissions', hstored, hlist, -⟩ := h.added hnew
    rw [hroles] at hstored
    by_cases hid : role.id = r
    · rw [if_pos ⟨hid.symm, hexists⟩] at hstored
      have hsame : permissions = permissions' := by simpa using hstored
      exact ⟨hid, hsame ▸ hlist⟩
    · rw [if_neg fun hwritten => hid hwritten.1.symm, hrole] at hstored
      have hsame : role.permissions = some permissions' :=
        congrArg IRoleDefinition.permissions (Option.some.inj hstored)
      -- the list cannot have grown
      rw [hsame, entries, Option.bind_some, hlist] at hlist
      simp at hlist
  · rintro ⟨hid, hlist⟩
    refine ⟨⟨{ message := type.added }, ?_⟩, fun hmem => absurd hmem hnew, fun _ => ?_, ?_⟩
    · rw [addAction_existing hrole, hedit]
      rfl
    · refine ⟨permissions, ?_, hlist, hothers⟩
      rw [hroles, if_pos ⟨hid.symm, hexists⟩]
    · intro x hx
      rw [hroles, if_neg fun hwritten => hx (hwritten.1.trans hid)]

-- Whatever the role, an action already listed is reported and nothing is written.
private theorem addsExactly_present (hrole : s.roles[r]? = some role)
    (hedit : type.edit role.permissions action = .ok none)
    (hmem : action ∈ entries type role.permissions) : AddsExactly s r action type role := by
  have hcall : addAction s r action type = (.ok { message := type.present }, s) := by
    rw [addAction_existing hrole, hedit]
    rfl
  refine ⟨⟨_, by rw [hcall]⟩, fun _ => hcall, fun hnew => absurd hmem hnew, fun x _ => ?_⟩
  rw [hcall]

private theorem addsExactly_unpermitted (hrole : s.roles[r]? = some role)
    (htype : type ≠ .other) (hperms : role.permissions = none) :
    AddsExactly s r action type role ↔ role.id = r := by
  have hedit : type.edit role.permissions action =
      .ok (some (type.put ⟨some [], some []⟩ [action])) := by rw [hperms, edit_none htype]
  have hempty : entries type role.permissions = [] := by rw [hperms]; rfl
  rw [addsExactly_written hrole hedit (by simp [hempty]), list_put htype, hempty]
  · simp
  · intro type' h
    rw [entries_put h, hperms]
    cases type' <;> rfl

private theorem addsExactly_listed (hrole : s.roles[r]? = some role) (htype : type ≠ .other)
    {perm : Permission} {elements : List Text} (hperms : role.permissions = some perm)
    (hlist : type.list perm = some elements) :
    AddsExactly s r action type role ↔ action ∈ elements ∨
      role.id = r ∧ (type = .denied → perm.actions = none → elements = []) := by
  have hedit := edit_list hlist action
  have hentries : entries type role.permissions = elements := by
    rw [hperms, entries, Option.bind_some, hlist, Option.getD_some]
  rw [← hperms] at hedit
  by_cases hmem : action ∈ elements
  · rw [if_pos hmem] at hedit
    exact iff_of_true (addsExactly_present hrole hedit (hentries ▸ hmem)) (.inl hmem)
  · rw [if_neg hmem] at hedit
    have hkept : type.extended perm elements action = elements ++ [action] ↔
        (type = .denied → perm.actions = none → elements = []) := by
      rw [ActionType.extended, ← and_imp]
      split
      · next hrebuilt => simp [hrebuilt]
      · next hpushed => exact iff_of_true rfl fun h => absurd h hpushed
    rw [addsExactly_written hrole hedit (hentries ▸ hmem), list_put htype, hentries,
      Option.some.injEq, hkept, or_iff_right hmem]
    intro type' h
    rw [entries_put h, hperms]

/-- On a role without permissions the call adds exactly the action when the role is stored
under its own identifier. On any other, the list of its type has to be there, and either the
action is in it or, besides, a denied list that has no allowed list beside it is empty. -/
theorem addsExactly_iff (hrole : s.roles[r]? = some role) (htype : type ≠ .other) :
    AddsExactly s r action type role ↔
      (role.permissions = none → role.id = r) ∧
        ∀ perm, role.permissions = some perm → ∃ elements, type.list perm = some elements ∧
          (action ∈ elements ∨
            role.id = r ∧ (type = .denied → perm.actions = none → elements = [])) := by
  cases hperms : role.permissions with
  | none => simp [addsExactly_unpermitted hrole htype hperms]
  | some perm =>
    cases hlist : type.list perm with
    | none =>
      apply iff_of_false
      · rintro ⟨⟨answer, hanswer⟩, -, -, -⟩
        rw [addAction_existing hrole, hperms, edit_missing htype hlist] at hanswer
        cases hanswer
      · intro h
        obtain ⟨elements, helements, -⟩ := h.2 perm rfl
        rw [hlist] at helements
        cases helements
    | some elements => simp [addsExactly_listed hrole htype hperms hlist, hlist]

end Addition

/-- A role of the documented shape, with allowed actions only, and one with denied actions
only. -/
def halfRoles : Store :=
  { Store.empty with
    roles := ((∅ : Table IRoleDefinition).insert (text "1")
        ⟨text "1", text "role1", some ⟨some [text "/app/log"], none⟩⟩).insert
      (text "2") ⟨text "2", text "role2", some ⟨none, some [text "/app/log"]⟩⟩ }

/-- A denied action cannot be added to the first role, and the second loses the one it had. -/
theorem halfRoles_not_added :
    (addAction halfRoles (text "1") (text "/app/put") .denied).1 = .error .typeError ∧
      (addAction halfRoles (text "2") (text "/app/put") .denied).2.roles[text "2"]? =
        some ⟨text "2", text "role2", some ⟨none, some [text "/app/put"]⟩⟩ ∧
      ¬ AddsExactly halfRoles (text "1") (text "/app/put") .denied
        ⟨text "1", text "role1", some ⟨some [text "/app/log"], none⟩⟩ ∧
      ¬ AddsExactly halfRoles (text "2") (text "/app/put") .denied
        ⟨text "2", text "role2", some ⟨none, some [text "/app/log"]⟩⟩ := by
  have hthrows : (addAction halfRoles (text "1") (text "/app/put") .denied).1 =
      .error .typeError := rfl
  have hlost : (addAction halfRoles (text "2") (text "/app/put") .denied).2.roles[text "2"]? =
      some ⟨text "2", text "role2", some ⟨none, some [text "/app/put"]⟩⟩ := rfl
  refine ⟨hthrows, hlost, fun h => ?_, fun h => ?_⟩
  · obtain ⟨answer, hanswer⟩ := h.answers
    rw [hthrows] at hanswer
    cases hanswer
  · obtain ⟨permissions, hstored, hlist, -⟩ := h.added (by decide)
    rw [hlost] at hstored
    cases hstored
    revert hlist
    decide

/-- An allowed action is added to the first role. -/
theorem halfRoles_added :
    AddsExactly halfRoles (text "1") (text "/app/put") .allowed
      ⟨text "1", text "role1", some ⟨some [text "/app/log"], none⟩⟩ := by
  refine (addsExactly_iff rfl (by decide)).mpr ⟨by simp, fun perm hperm => ?_⟩
  cases hperm
  exact ⟨[text "/app/log"], rfl, .inr ⟨rfl, by simp⟩⟩

end CcfIdentity
