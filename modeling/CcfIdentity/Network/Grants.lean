import CcfIdentity.Network.Steps
import CcfIdentity.Rbac.Grants

/-!
# Dangling and unrevocable grants

The operations check that role and principal exist when a grant is made and again when it
is revoked, and write the three tables independently of each other in between. Each
invariant below is kept by an event exactly when a condition on the state before it holds,
and so throughout exactly the runs whose events all meet their condition.
-/

open Utf16

namespace CcfIdentity

/-- Every string listed for an identifier is an existing role. -/
def NoDangling (s : Store) : Prop := ∀ id r, Holds s id r → roleExists s r

/-- Every identifier that holds a role is a registered principal. -/
def HoldersRegistered (s : Store) : Prop := ∀ id r, Holds s id r → principalExists s id

/-- Every role an identifier holds can be taken away by the call that names the two. -/
def Revocable (s : Store) : Prop :=
  ∀ p r, Holds s p r → ¬ Holds (removePrincipalFromRole s r p).2 p r

/-- A removed role is held by nobody, and every string that the text of a principal's first
grant lists is an existing role. -/
def KeepsBacked (s : Store) : Event → Prop
  | .rbac (.removeRole r) => ∀ id, ¬ Holds s id r
  | .rbac (.assignPrincipalToRole r p) =>
    roleExists s r → principalExists s p → s.roleAssignments[p]? = none →
      ∀ x, .str x ∈ spliced r → roleExists s x
  | _ => True

/-- No string is listed for a removed principal. -/
def KeepsRegistered (s : Store) : Event → Prop
  | .governance (.removeServicePrincipal p) => ∀ r, ¬ Holds s p r
  | _ => True

/-- Only a grant to the identifier itself makes it hold a role it did not hold. -/
theorem grant_of_new_holding {s : Store} {e : Event} {p r : Text} (hbefore : ¬ Holds s p r)
    (hafter : Holds (step s e) p r) : ∃ r', e = .rbac (.assignPrincipalToRole r' p) := by
  cases e with
  | governance action =>
    exact absurd ((holds_congr (govern_frame s action).2 p r).mp hafter) hbefore
  | rbac call =>
    cases call with
    | assignPrincipalToRole r' p' =>
      rw [Holds, step, perform, rolesOf_assign] at hafter
      split at hafter
      · next heffective => exact ⟨r', by rw [heffective.1]⟩
      · exact absurd hafter hbefore
    | removePrincipalFromRole r' p' =>
      rw [Holds, step, perform, rolesOf_revoke] at hafter
      split at hafter
      · cases hafter
      · exact absurd hafter hbefore
    | _ => exact absurd ((holds_congr (roleCall_frame s rfl) p r).mp hafter) hbefore

/-- What a grant makes a principal hold: its own role, what it held, or, where it had no
entry, what the spliced text lists. -/
theorem holds_assign {s : Store} {r p id x : Text}
    (h : Holds (assignPrincipalToRole s r p).2 id x) :
    Holds s id x ∨ id = p ∧ roleExists s r ∧ principalExists s p ∧
      (x = r ∨ s.roleAssignments[p]? = none ∧ .str x ∈ spliced r) := by
  rw [Holds, rolesOf_assign] at h
  split at h
  · next heffective =>
    obtain ⟨rfl, hrole, hprincipal⟩ := heffective
    cases hentry : s.roleAssignments[id]? with
    | none =>
      rw [granted, hentry] at h
      exact .inr ⟨rfl, hrole, hprincipal, .inr ⟨rfl, h⟩⟩
    | some assignment =>
      rcases (mem_granted hentry).mp h with h | ⟨h, -⟩
      · exact .inl h
      · exact .inr ⟨rfl, hrole, hprincipal, .inl h⟩
  · exact .inl h

/-- Only a grant to a registered principal makes it hold a role it did not hold. -/
theorem registered_of_new_holding {s : Store} {e : Event} {id r : Text}
    (hbefore : ¬ Holds s id r) (hafter : Holds (step s e) id r) :
    ∃ r', e = .rbac (.assignPrincipalToRole r' id) ∧ principalExists s id := by
  obtain ⟨r', rfl⟩ := grant_of_new_holding hbefore hafter
  rcases holds_assign hafter with hheld | ⟨-, -, hprincipal, -⟩
  · exact absurd hheld hbefore
  · exact ⟨r', rfl, hprincipal⟩

/-- What a revocation leaves was there before. -/
theorem holds_revoke {s : Store} {r p id x : Text}
    (h : Holds (removePrincipalFromRole s r p).2 id x) : Holds s id x := by
  rw [Holds, rolesOf_revoke] at h
  split at h
  · cases h
  · exact h

private theorem noDangling_of_frame {s : Store} {e : Event} (h : NoDangling s)
    (hremove : ∀ r, e ≠ .rbac (.removeRole r))
    (hassignments : (step s e).roleAssignments = s.roleAssignments) : NoDangling (step s e) := by
  intro id r hholds
  exact roleExists_kept (h id r ((holds_congr hassignments id r).mp hholds)) (hremove r)

private theorem noDangling_removeRole {s : Store} (h : NoDangling s) (r : Text) :
    NoDangling (removeRole s r).2 ↔ ∀ id, ¬ Holds s id r := by
  have hframe : (perform s (.removeRole r)).2.roleAssignments = s.roleAssignments :=
    roleCall_frame s rfl
  have hholds : ∀ id x, Holds (removeRole s r).2 id x ↔ Holds s id x := holds_congr hframe
  constructor
  · intro hafter id hid
    have hexists := hafter id r ((hholds id r).mpr hid)
    exact ((roleExists_removeRole s r r).mp hexists).2 rfl
  · intro hunheld id x hx
    have hbefore := (hholds id x).mp hx
    exact (roleExists_removeRole s r x).mpr
      ⟨h id x hbefore, fun heq => hunheld id (heq ▸ hbefore)⟩

private theorem noDangling_assign {s : Store} (h : NoDangling s) (r p : Text) :
    NoDangling (assignPrincipalToRole s r p).2 ↔
      (roleExists s r → principalExists s p → s.roleAssignments[p]? = none →
        ∀ x, .str x ∈ spliced r → roleExists s x) := by
  have hroles : ∀ x, roleExists (assignPrincipalToRole s r p).2 x = roleExists s x :=
    roleExists_congr (assign_roles s r p)
  constructor
  · intro hafter hrole hprincipal hentry x hx
    have hholds : Holds (assignPrincipalToRole s r p).2 p x := by
      rw [Holds, rolesOf_assign, if_pos ⟨rfl, hrole, hprincipal⟩, granted, hentry]
      exact hx
    rw [← hroles]
    exact hafter p x hholds
  · intro hspliced id x hx
    rw [hroles]
    rcases holds_assign hx with hx | ⟨-, hrole, hprincipal, rfl | ⟨hentry, hx⟩⟩
    · exact h id x hx
    · exact hrole
    · exact hspliced hrole hprincipal hentry x hx

/-- An event keeps the grants backed exactly under its condition. -/
theorem noDangling_step (s : Store) (e : Event) (h : NoDangling s) :
    NoDangling (step s e) ↔ KeepsBacked s e := by
  cases e with
  | governance action =>
    exact iff_of_true (noDangling_of_frame h (by simp) (govern_frame s action).2) trivial
  | rbac call =>
    cases call with
    | removeRole r => exact noDangling_removeRole h r
    | assignPrincipalToRole r p => exact noDangling_assign h r p
    | removePrincipalFromRole r p =>
      apply iff_of_true _ trivial
      intro id x hx
      exact roleExists_kept (h id x (holds_revoke hx)) (by simp)
    | _ => exact iff_of_true (noDangling_of_frame h (by simp) (roleCall_frame s rfl)) trivial

/-- The grant of a plain identifier always meets its condition. -/
theorem keepsBacked_plain (s : Store) {r : Text} (p : Text) (h : Json.Plain r) :
    KeepsBacked s (.rbac (.assignPrincipalToRole r p)) := by
  intro hrole _ _ x hx
  rw [spliced_plain h, List.mem_singleton] at hx
  cases hx
  exact hrole

/-- Nothing dangles in the empty store. -/
theorem noDangling_empty : NoDangling Store.empty := by
  intro id r h
  exact absurd h (holds_empty id r)

/-! ### Grants of removed roles -/

/-- No grant dangles at any point of the run, and whoever holds a role that did not exist
at some point did not hold it when a grant made since gave it to them. -/
def NoDanglingGrants (events : List Event) : Prop :=
  Runs.Throughout step NoDangling Store.empty events ∧
    ∀ before after p r, before ++ after <+: events →
      ¬ roleExists (Runs.run step Store.empty before) r →
      Holds (Runs.run step Store.empty (before ++ after)) p r →
      ∃ between r', between ++ [.rbac (.assignPrincipalToRole r' p)] <+: after ∧
        ¬ Holds (Runs.run step Store.empty (before ++ between)) p r ∧
        Holds (assignPrincipalToRole (Runs.run step Store.empty (before ++ between)) r' p).2 p r

private theorem regranted {s : Store} {after : List Event} {p r : Text} (h : NoDangling s)
    (habsent : ¬ roleExists s r) (hholds : Holds (Runs.run step s after) p r) :
    ∃ between r', between ++ [.rbac (.assignPrincipalToRole r' p)] <+: after ∧
      ¬ Holds (Runs.run step s between) p r ∧
      Holds (assignPrincipalToRole (Runs.run step s between) r' p).2 p r := by
  have hbefore : ¬ Holds s p r := fun hp => habsent (h p r hp)
  obtain ⟨between, e, hpre, hnot, hyes⟩ := Runs.exists_switch (Q := (Holds · p r)) hbefore hholds
  obtain ⟨r', rfl⟩ := grant_of_new_holding hnot hyes
  exact ⟨between, r', hpre, hnot, hyes⟩

/-- Grants stay backed along a run exactly when every event of it meets its condition. -/
theorem noDanglingGrants_iff (events : List Event) :
    NoDanglingGrants events ↔ Runs.Guarded step KeepsBacked Store.empty events := by
  rw [← Runs.throughout_iff_guarded noDangling_step noDangling_empty events]
  constructor
  · exact And.left
  · refine fun hall => ⟨hall, fun before after p r hpre habsent hholds => ?_⟩
    have hthen : NoDangling (Runs.run step Store.empty before) :=
      hall before ((List.prefix_append before after).trans hpre)
    rw [Runs.run_append] at hholds
    obtain ⟨between, r', hgrant, hnot, hyes⟩ := regranted hthen habsent hholds
    refine ⟨between, r', hgrant, ?_, ?_⟩
    · rwa [Runs.run_append]
    · rwa [Runs.run_append]

/-- The role `id1` is granted to a principal, removed, and created again. -/
def recreatedRole : List Event :=
  [.governance (.setServicePrincipal (text "u") (text "prin1")),
    .rbac (.addRole ⟨text "id1", text "name1", some ⟨some [text "/app/log"], some []⟩⟩),
    .rbac (.assignPrincipalToRole (text "id1") (text "u")),
    .rbac (.removeRole (text "id1")),
    .rbac (.addRole ⟨text "id1", text "name2", some ⟨some [text "/app/admin"], some []⟩⟩)]

/-- A removed role stays listed, and its successor of the same name is held at once. -/
theorem recreatedRole_dangles : ¬ NoDanglingGrants recreatedRole ∧
    ¬ NoDangling (Runs.run step Store.empty (recreatedRole.take 4)) ∧
    Holds (Runs.run step Store.empty recreatedRole) (text "u") (text "id1") := by
  have hlisted : rolesOf (Runs.run step Store.empty (recreatedRole.take 4)) (text "u") =
      [.str (text "id1")] := rfl
  have habsent : roleExists (Runs.run step Store.empty (recreatedRole.take 4)) (text "id1") =
      false := rfl
  have hdangling : ¬ NoDangling (Runs.run step Store.empty (recreatedRole.take 4)) := by
    intro h
    have hexists := h (text "u") (text "id1") (by simp [Holds, hlisted])
    rw [habsent] at hexists
    cases hexists
  refine ⟨fun h => hdangling (h.1 _ (List.take_prefix 4 _)), hdangling, ?_⟩
  have hafter : rolesOf (Runs.run step Store.empty recreatedRole) (text "u") =
      [.str (text "id1")] := rfl
  simp [Holds, hafter]

/-! ### Revocation -/

/-- A grant can be revoked exactly when the call's two checks pass for it. -/
theorem revocable_iff (s : Store) : Revocable s ↔ NoDangling s ∧ HoldersRegistered s := by
  have hone : ∀ p r, Holds s p r → (¬ Holds (removePrincipalFromRole s r p).2 p r ↔
      roleExists s r ∧ principalExists s p) := by
    intro p r hp
    rw [Holds, rolesOf_revoke]
    by_cases hguard : roleExists s r ∧ principalExists s p
    · simp [hguard]
    · rw [if_neg (fun heffective => hguard heffective.2)]
      exact iff_of_false (fun hnot => hnot hp) hguard
  constructor
  · intro h
    exact ⟨fun p r hp => ((hone p r hp).mp (h p r hp)).1,
      fun p r hp => ((hone p r hp).mp (h p r hp)).2⟩
  · rintro ⟨hbacked, hregistered⟩ p r hp
    exact (hone p r hp).mpr ⟨hbacked p r hp, hregistered p r hp⟩

/-- An event keeps the holders registered exactly under its condition. -/
theorem holdersRegistered_step (s : Store) (e : Event) (h : HoldersRegistered s) :
    HoldersRegistered (step s e) ↔ KeepsRegistered s e := by
  cases e with
  | rbac call =>
    refine iff_of_true (fun p r hp => ?_) trivial
    rw [step, principalExists_congr (perform_frame s call).1]
    by_cases hbefore : Holds s p r
    · exact h p r hbefore
    · obtain ⟨r', -, hprincipal⟩ := registered_of_new_holding hbefore hp
      exact hprincipal
  | governance action =>
    have hholds : ∀ p r, Holds (govern s action) p r ↔ Holds s p r :=
      holds_congr (govern_frame s action).2
    cases action with
    | removeServicePrincipal id =>
      constructor
      · intro hafter r hid
        have hregistered := hafter id r ((hholds id r).mpr hid)
        exact ((principalExists_remove s id id).mp hregistered).2 rfl
      · intro hunheld p r hp
        have hbefore := (hholds p r).mp hp
        exact (principalExists_remove s id p).mpr
          ⟨h p r hbefore, fun heq => hunheld r (heq ▸ hbefore)⟩
    | _ =>
      apply iff_of_true _ trivial
      intro p r hp
      exact principalExists_kept (h p r ((hholds p r).mp hp)) (by simp)

/-- Every grant stays revocable along a run exactly when roles and principals are removed
only once nobody holds the one and no string is listed for the other, and the strings that
first grants list are existing roles. -/
theorem revocable_throughout_iff (events : List Event) :
    Runs.Throughout step Revocable Store.empty events ↔
      Runs.Guarded step (fun s e => KeepsBacked s e ∧ KeepsRegistered s e) Store.empty events := by
  apply Runs.throughout_iff_guarded
  · intro s e hs
    obtain ⟨hbacked, hregistered⟩ := (revocable_iff s).mp hs
    rw [revocable_iff, noDangling_step s e hbacked, holdersRegistered_step s e hregistered]
  · intro p r hp
    exact absurd hp (holds_empty p r)

/-- A principal is removed before its role is revoked, as the package's own tests do. -/
def removedPrincipal : List Event :=
  [.governance (.setServicePrincipal (text "u") (text "prin1")),
    .rbac (.addRole ⟨text "id1", text "name1", some ⟨some [], some []⟩⟩),
    .rbac (.assignPrincipalToRole (text "id1") (text "u")),
    .governance (.removeServicePrincipal (text "u"))]

/-- The revocation of a removed principal's role is refused. -/
theorem removedPrincipal_irrevocable :
    ¬ Runs.Throughout step Revocable Store.empty removedPrincipal := by
  intro h
  have hbefore : rolesOf (Runs.run step Store.empty removedPrincipal) (text "u") =
      [.str (text "id1")] := rfl
  have hafter : rolesOf (removePrincipalFromRole
      (Runs.run step Store.empty removedPrincipal) (text "id1") (text "u")).2 (text "u") =
      [.str (text "id1")] := rfl
  refine h removedPrincipal List.prefix_rfl (text "u") (text "id1") ?_ ?_
  · simp [Holds, hbefore]
  · simp [Holds, hafter]

end CcfIdentity
