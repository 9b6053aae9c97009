import CcfIdentity.Network.Steps
import CcfIdentity.Rbac.Additions
import Mathlib.Data.List.Nodup

/-!
# Permission lists without repetitions

`addAction` looks for the action in the list it then extends, and `removeAction` filters.
Lists that repeat nothing therefore stay so over every run whose role definitions repeat
nothing.
-/

open Utf16

namespace CcfIdentity

/-- Neither list of the permissions names an action twice. -/
def Distinct (permissions : Option Permission) : Prop :=
  ∀ type, (entries type permissions).Nodup

/-- No stored role names an action twice in one list. -/
def DistinctActions (s : Store) : Prop :=
  ∀ (r : Text) (role : IRoleDefinition), s.roles[r]? = some role → Distinct role.permissions

/-- The definition given to `addRole` or `updateRole`, if the event is one of these, names no
action twice in one list. -/
def GivesDistinct : Event → Prop
  | .rbac (.addRole role) => Distinct role.permissions
  | .rbac (.updateRole role) => Distinct role.permissions
  | _ => True

private theorem distinct_put {perm : Permission} {type : ActionType} {elements : List Text}
    (h : Distinct (some perm)) (hnodup : elements.Nodup) :
    Distinct (some (type.put perm elements)) := by
  intro type'
  by_cases htype : type' = type
  · subst htype
    cases type' with
    | allowed | denied => exact hnodup
    | other => exact List.nodup_nil
  · rw [entries_put htype]
    exact h type'

private theorem distinct_lists {perm : Permission} {type : ActionType} {elements : List Text}
    (h : Distinct (some perm)) (hlist : type.list perm = some elements) : elements.Nodup := by
  have hentries := h type
  rwa [entries, Option.bind_some, hlist, Option.getD_some] at hentries

/-- The edit appends an action only to a list without it. -/
theorem distinct_edit {type : ActionType} {permissions : Option Permission} {action : Text}
    {edited : Permission} (h : Distinct permissions)
    (hedit : Edited type action permissions edited) : Distinct (some edited) := by
  intro type'
  by_cases htype : type' = type
  · subst htype
    by_cases hrebuilds : Rebuilds type' permissions
    · rw [hedit.rebuilt hrebuilds]
      exact List.nodup_singleton action
    · rw [hedit.extended hrebuilds, ← List.concat_eq_append, List.nodup_concat]
      exact ⟨hedit.new, h type'⟩
  · rw [hedit.others type' htype]
    exact h type'

private theorem distinctActions_updateRole {s : Store} (h : DistinctActions s)
    {role : IRoleDefinition} (hrole : Distinct role.permissions) :
    DistinctActions (updateRole s role).2 := by
  intro r stored hstored
  rw [role_updateRole] at hstored
  split at hstored
  · cases hstored
    exact hrole
  · exact h r stored hstored

/-- One event keeps the lists free of repetitions. -/
theorem distinctActions_step {e : Event} (he : GivesDistinct e) (s : Store)
    (h : DistinctActions s) : DistinctActions (step s e) := by
  have hframe : ∀ s' : Store, s'.roles = s.roles → DistinctActions s' := by
    intro s' hs' r role hr
    exact h r role (hs' ▸ hr)
  cases e with
  | governance action => exact hframe _ (govern_frame s action).1
  | rbac call =>
    cases call with
    | addRole role =>
      intro r stored hstored
      rw [step, perform, role_addRole] at hstored
      split at hstored
      · cases hstored
        exact he
      · exact h r stored hstored
    | removeRole r₀ =>
      intro r stored hstored
      rw [step, perform, role_removeRole] at hstored
      split at hstored
      · cases hstored
      · exact h r stored hstored
    | updateRole role => exact distinctActions_updateRole h he
    | assignPrincipalToRole r p => exact hframe _ (assign_roles s r p)
    | removePrincipalFromRole r p => exact hframe _ (revoke_roles s r p)
    | addAction r action type =>
      rw [step, perform]
      rcases addAction_cases s r action type with hkept | ⟨role, edited, hrole, hedit, hwritten⟩
      · rwa [hkept]
      · rw [hwritten]
        exact distinctActions_updateRole h (distinct_edit (h r role hrole) (edited_of_edit hedit))
    | removeAction r action type =>
      rw [step, perform]
      rcases removeAction_cases s r action type with
        hkept | ⟨role, perm, elements, hrole, hperm, hlist, hwritten⟩
      · rwa [hkept]
      · have hold : Distinct (some perm) := hperm ▸ h r role hrole
        rw [hwritten]
        exact distinctActions_updateRole h
          (distinct_put hold ((distinct_lists hold hlist).filter _))

/-- In every run whose role definitions repeat no action, no stored role repeats one. -/
theorem distinctActions_run (events : List Event) (h : ∀ e ∈ events, GivesDistinct e) :
    DistinctActions (Runs.run step Store.empty events) := by
  apply Runs.run_preserves_of fun e he s => distinctActions_step (h e he) s
  intro r role hr
  simp [Store.empty] at hr

/-- A role without permissions is defined and the same action added to it twice. -/
def addedTwice : List Event :=
  [.rbac (.addRole ⟨text "id1", text "name1", none⟩),
    .rbac (.addAction (text "id1") (text "/app/log") .denied),
    .rbac (.addAction (text "id1") (text "/app/log") .denied)]

/-- The second addition repeats nothing. -/
theorem addedTwice_distinct : DistinctActions (Runs.run step Store.empty addedTwice) := by
  apply distinctActions_run
  intro e he
  have hempty : Distinct none := fun type => List.nodup_nil
  simp only [addedTwice, List.mem_cons, List.not_mem_nil, or_false] at he
  rcases he with rfl | rfl | rfl
  · exact hempty
  · trivial
  · trivial

end CcfIdentity
