import CcfIdentity.Network.Steps
import CcfIdentity.Rbac.Grants

/-!
# The two views of membership

`isInRole` and `getRolesForPrincipal` read the same table, but the first asks only whether
the principal has an entry. The two agree as long as every entry lists every existing
role, which an event keeps exactly when a condition on the state before it holds.
-/

open Utf16

namespace CcfIdentity

/-- Both views of the table give the same answer about every role and identifier. -/
def ViewsAgree (s : Store) : Prop :=
  ∀ r p, isInRole s r p = true ↔ roleExists s r ∧ Holds s p r

/-- A new role is already listed in every entry, and the entry of a first grant lists every
existing role. -/
def KeepsViews (s : Store) : Event → Prop
  | .rbac (.addRole role) =>
    ¬ roleExists s role.id → ∀ p, s.roleAssignments[p]?.isSome → Holds s p role.id
  | .rbac (.assignPrincipalToRole r p) =>
    roleExists s r → principalExists s p → s.roleAssignments[p]? = none →
      (Json.parse (grantText r)).isSome → ∀ x, roleExists s x → .str x ∈ spliced r
  | _ => True

/-- `isInRole` asks for the role to exist and for an entry, whatever it lists. -/
theorem isInRole_iff (s : Store) (r p : Text) :
    isInRole s r p = true ↔ roleExists s r ∧ s.roleAssignments[p]?.isSome := by
  rw [isInRole, roleExists]
  cases s.roles.contains r with
  | false => simp
  | true => cases s.roleAssignments[p]? <;> simp

/-- The views agree exactly when every entry lists every existing role. -/
theorem viewsAgree_iff (s : Store) : ViewsAgree s ↔
    ∀ r p, roleExists s r → s.roleAssignments[p]?.isSome → Holds s p r := by
  simp only [ViewsAgree, isInRole_iff]
  constructor
  · intro h r p hrole hentry
    exact ((h r p).mp ⟨hrole, hentry⟩).2
  · intro h r p
    refine and_congr_right fun hrole => ⟨h r p hrole, fun hholds => ?_⟩
    obtain ⟨assignment, hentry, -⟩ := hholds.entry
    rw [hentry]
    rfl

/-- What every entry lists, an event that neither adds a role nor an entry keeps. -/
private theorem views_of_frame {s : Store} {e : Event}
    (h : ∀ r p, roleExists s r → s.roleAssignments[p]?.isSome → Holds s p r)
    (hadd : ∀ role, e ≠ .rbac (.addRole role))
    (hassignments : (step s e).roleAssignments = s.roleAssignments) :
    ∀ r p, roleExists (step s e) r → (step s e).roleAssignments[p]?.isSome →
      Holds (step s e) p r := by
  intro r p hrole hentry
  rw [hassignments] at hentry
  have hold : roleExists s r := roleExists_old hrole fun role he => absurd he (hadd role)
  exact (holds_congr hassignments p r).mpr (h r p hold hentry)

private theorem views_addRole {s : Store} {role : IRoleDefinition}
    (h : ∀ r p, roleExists s r → s.roleAssignments[p]?.isSome → Holds s p r) :
    (∀ r p, roleExists (addRole s role).2 r → (addRole s role).2.roleAssignments[p]?.isSome →
      Holds (addRole s role).2 p r) ↔
    (¬ roleExists s role.id → ∀ p, s.roleAssignments[p]?.isSome → Holds s p role.id) := by
  have hframe : (perform s (.addRole role)).2.roleAssignments = s.roleAssignments :=
    roleCall_frame s rfl
  have hholds : ∀ p r, Holds (addRole s role).2 p r ↔ Holds s p r := holds_congr hframe
  have hassignments : (addRole s role).2.roleAssignments = s.roleAssignments := hframe
  simp only [roleExists_addRole, hholds, hassignments]
  constructor
  · intro hafter _ p hentry
    exact hafter role.id p (.inr rfl) hentry
  · rintro hlisted r p (hrole | rfl) hentry
    · exact h r p hrole hentry
    · by_cases hold : roleExists s role.id
      · exact h role.id p hold hentry
      · exact hlisted hold p hentry

private theorem views_assign {s : Store} {r p : Text}
    (h : ∀ r p, roleExists s r → s.roleAssignments[p]?.isSome → Holds s p r) :
    (∀ x id, roleExists (assignPrincipalToRole s r p).2 x →
      (assignPrincipalToRole s r p).2.roleAssignments[id]?.isSome →
      Holds (assignPrincipalToRole s r p).2 id x) ↔
    (roleExists s r → principalExists s p → s.roleAssignments[p]? = none →
      (Json.parse (grantText r)).isSome → ∀ x, roleExists s x → .str x ∈ spliced r) := by
  simp only [roleExists_congr (assign_roles s r p), entry_assign, Holds, rolesOf_assign]
  constructor
  · intro hafter hrole hprincipal hentry hparse x hx
    have hlisted := hafter x p hx
    rw [if_pos rfl, grant_first hrole hprincipal hentry, hentry, Option.or_none,
      if_pos ⟨rfl, hrole, hprincipal⟩, granted, hentry] at hlisted
    exact hlisted hparse
  · intro hspliced x id hx hentry
    by_cases heffective : id = p ∧ roleExists s r ∧ principalExists s p
    · obtain ⟨rfl, hrole, hprincipal⟩ := heffective
      rw [if_pos ⟨rfl, hrole, hprincipal⟩]
      cases hold : s.roleAssignments[id]? with
      | none =>
        rw [if_pos rfl, grant_first hrole hprincipal hold, hold, Option.or_none] at hentry
        rw [granted, hold]
        exact hspliced hrole hprincipal hold hentry x hx
      | some assignment =>
        exact (mem_granted hold).mpr (.inl (h x id hx (by rw [hold]; rfl)))
    · rw [if_neg heffective]
      refine h x id hx ?_
      split at hentry
      · next hid =>
        have hnogrant : grant s r p = none := if_neg fun hguard => heffective ⟨hid, hguard⟩
        rw [hnogrant, Option.none_or] at hentry
        rwa [hid]
      · exact hentry

/-- An event keeps the views in agreement exactly under its condition. -/
theorem viewsAgree_step (s : Store) (e : Event) (h : ViewsAgree s) :
    ViewsAgree (step s e) ↔ KeepsViews s e := by
  rw [viewsAgree_iff] at h ⊢
  cases e with
  | governance action =>
    exact iff_of_true (views_of_frame h (by simp) (govern_frame s action).2) trivial
  | rbac call =>
    cases call with
    | addRole role => exact views_addRole h
    | assignPrincipalToRole r p => exact views_assign h
    | removePrincipalFromRole r₀ p₀ =>
      refine iff_of_true (fun r p hrole hentry => ?_) trivial
      rw [step, perform, entry_revoke] at hentry
      rw [Holds, step, perform, rolesOf_revoke]
      split at hentry
      · cases hentry
      · next heffective =>
        rw [if_neg heffective]
        exact h r p (roleExists_old hrole (by simp)) hentry
    | _ => exact iff_of_true (views_of_frame h (by simp) (roleCall_frame s rfl)) trivial

/-- The first grant of a plain identifier meets its condition when no other role exists. -/
theorem keepsViews_plain (s : Store) {r : Text} (p : Text) (h : Json.Plain r) :
    KeepsViews s (.rbac (.assignPrincipalToRole r p)) ↔
      (roleExists s r → principalExists s p → s.roleAssignments[p]? = none →
        ∀ x, roleExists s x → x = r) := by
  simp [KeepsViews, parse_grantText h, spliced_plain h]

/-- The views agree throughout a run exactly when every event of it meets its condition. -/
theorem viewsAgree_throughout_iff (events : List Event) :
    Runs.Throughout step ViewsAgree Store.empty events ↔
      Runs.Guarded step KeepsViews Store.empty events := by
  apply Runs.throughout_iff_guarded viewsAgree_step
  apply (viewsAgree_iff _).mpr
  intro r p hrole
  simp [roleExists_eq, Store.empty] at hrole

/-- A principal is granted one of two roles. -/
def oneOfTwoRoles : List Event :=
  [.governance (.setServicePrincipal (text "u") (text "prin1")),
    .rbac (.addRole ⟨text "id1", text "name1", some ⟨some [], some []⟩⟩),
    .rbac (.addRole ⟨text "id2", text "name2", some ⟨some [], some []⟩⟩),
    .rbac (.assignPrincipalToRole (text "id1") (text "u"))]

/-- The principal is reported to be in the role it was not granted. -/
theorem oneOfTwoRoles_views_differ :
    ¬ Runs.Throughout step ViewsAgree Store.empty oneOfTwoRoles := by
  intro h
  have hlisted : rolesOf (Runs.run step Store.empty oneOfTwoRoles) (text "u") =
      [.str (text "id1")] := rfl
  have hin : isInRole (Runs.run step Store.empty oneOfTwoRoles) (text "id2") (text "u") =
      true := rfl
  have hheld := ((h oneOfTwoRoles List.prefix_rfl (text "id2") (text "u")).mp hin).2
  have hother : text "id2" ≠ text "id1" := by decide
  rw [Holds, hlisted] at hheld
  simp [hother] at hheld

end CcfIdentity
