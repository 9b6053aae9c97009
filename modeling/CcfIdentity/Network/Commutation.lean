import CcfIdentity.Network.Footprints

/-!
# Independent calls commute

Calls on different roles, on assignments of different principals, and on a role and an
assignment where the one call neither creates nor removes the role the other names, can be
made in either order: both write different cells and see nothing of each other.
-/

open Utf16

namespace CcfIdentity

/-- The two calls are independent, the role operation first where there is one of each. -/
inductive Apart : RbacCall → RbacCall → Prop where
  | roles {c d : RbacCall} {r r' : Text} :
      c.roleId? = some r → d.roleId? = some r' → r ≠ r' → Apart c d
  | principals {c d : RbacCall} {r r' p p' : Text} :
      c.assignment? = some (r, p) → d.assignment? = some (r', p') → p ≠ p' → Apart c d
  | updateRole (role : IRoleDefinition) {d : RbacCall} :
      d.assignment?.isSome → Apart (.updateRole role) d
  | addAction (role_id action : Text) (actionType : ActionType) {d : RbacCall} :
      d.assignment?.isSome → Apart (.addAction role_id action actionType) d
  | removeAction (role_id action : Text) (actionType : ActionType) {d : RbacCall} :
      d.assignment?.isSome → Apart (.removeAction role_id action actionType) d
  | addRole {role : IRoleDefinition} {d : RbacCall} {r p : Text} :
      d.assignment? = some (r, p) → role.id ≠ r → Apart (.addRole role) d
  | removeRole {roleId : Text} {d : RbacCall} {r p : Text} :
      d.assignment? = some (r, p) → roleId ≠ r → Apart (.removeRole roleId) d

/-- The two calls are independent, in either order. -/
def Independent (c d : RbacCall) : Prop := Apart c d ∨ Apart d c

/-! ### What independent calls leave each other to see -/

section Apart

variable {s : Store} {c d : RbacCall}

private theorem cell_of_roleId {r : Text} (h : c.roleId? = some r) : c.cell = .role r := by
  cases c with
  | assignPrincipalToRole r' p | removePrincipalFromRole r' p => cases h
  | _ => exact congrArg Cell.role (Option.some.inj h)

private theorem cell_of_assignment {r p : Text} (h : c.assignment? = some (r, p)) :
    c.cell = .assignment p := by
  cases c with
  | assignPrincipalToRole r' p' | removePrincipalFromRole r' p' =>
    exact congrArg (fun rp => Cell.assignment rp.2) (Option.some.inj h)
  | _ => cases h

private theorem roleId_of_assignment {r p : Text} (h : c.assignment? = some (r, p)) :
    c.roleId? = none := by
  cases c with
  | assignPrincipalToRole r' p' | removePrincipalFromRole r' p' => rfl
  | _ => cases h

private theorem assignment_of_roleId {r : Text} (h : c.roleId? = some r) :
    c.assignment? = none := by
  cases c with
  | assignPrincipalToRole r' p' | removePrincipalFromRole r' p' => cases h
  | _ => rfl

private theorem sees_of_role (hkeyed : Keyed s) {r : Text} (h : c.roleId? = some r)
    (hcell : Cell.role r ≠ d.cell) : Sees c s (perform s d).2 where
  role x hx := by
    cases h.symm.trans hx
    exact read_perform hkeyed d hcell
  assignment x p hx := by
    rw [assignment_of_roleId h] at hx
    cases hx

private theorem sees_of_assignment (hkeyed : Keyed s) {r p : Text}
    (h : c.assignment? = some (r, p)) (hcell : Cell.assignment p ≠ d.cell)
    (hrole : roleExists (perform s d).2 r = roleExists s r) : Sees c s (perform s d).2 where
  role x hx := by
    rw [roleId_of_assignment h] at hx
    cases hx
  assignment x q hx := by
    cases h.symm.trans hx
    exact ⟨hrole, principalExists_congr (perform_frame s d).1 p, read_perform hkeyed d hcell⟩

private theorem roleExists_other (hkeyed : Keyed s) {r : Text} (hcell : Cell.role r ≠ d.cell) :
    roleExists (perform s d).2 r = roleExists s r := by
  have hsame : (perform s d).2.roles[r]? = s.roles[r]? := read_perform hkeyed d hcell
  rw [roleExists_eq, roleExists_eq, hsame]

-- A role operation and an assignment operation, given that the role is there or not as before.
private theorem sees_mixed (hkeyed : Keyed s) {r r' p : Text} (hc : c.roleId? = some r)
    (hd : d.assignment? = some (r', p))
    (hexists : roleExists (perform s c).2 r' = roleExists s r') :
    c.cell ≠ d.cell ∧ Sees c s (perform s d).2 ∧ Sees d s (perform s c).2 := by
  have hcell : c.cell = .role r := cell_of_roleId hc
  have hcell' : d.cell = .assignment p := cell_of_assignment hd
  refine ⟨by rw [hcell, hcell']; simp, ?_, ?_⟩
  · apply sees_of_role hkeyed hc
    rw [hcell']
    simp
  · apply sees_of_assignment hkeyed hd _ hexists
    rw [hcell]
    simp

/-- Independent calls write different cells, and neither sees what the other writes. -/
theorem Apart.sees (hkeyed : Keyed s) (h : Apart c d) :
    c.cell ≠ d.cell ∧ Sees c s (perform s d).2 ∧ Sees d s (perform s c).2 := by
  cases h with
  | @roles _ _ r r' hc hd hne =>
    have hcell : c.cell = .role r := cell_of_roleId hc
    have hcell' : d.cell = .role r' := cell_of_roleId hd
    refine ⟨by rw [hcell, hcell']; simpa using hne, ?_, ?_⟩
    · apply sees_of_role hkeyed hc
      rw [hcell']
      simpa using hne
    · apply sees_of_role hkeyed hd
      rw [hcell]
      simpa using hne.symm
  | @principals _ _ r r' p p' hc hd hne =>
    have hcell : c.cell = .assignment p := cell_of_assignment hc
    have hcell' : d.cell = .assignment p' := cell_of_assignment hd
    refine ⟨by rw [hcell, hcell']; simpa using hne, ?_, ?_⟩
    · apply sees_of_assignment hkeyed hc
      · rw [hcell']
        simpa using hne
      · apply roleExists_other hkeyed
        rw [hcell']
        simp
    · apply sees_of_assignment hkeyed hd
      · rw [hcell]
        simpa using hne.symm
      · apply roleExists_other hkeyed
        rw [hcell]
        simp
  | updateRole role hd =>
    obtain ⟨⟨r', p⟩, hd⟩ := Option.isSome_iff_exists.mp hd
    exact sees_mixed hkeyed rfl hd (Bool.eq_iff_iff.mpr (roleExists_updateRole s role r'))
  | addAction r action type hd =>
    obtain ⟨⟨r', p⟩, hd⟩ := Option.isSome_iff_exists.mp hd
    exact sees_mixed hkeyed rfl hd
      (Bool.eq_iff_iff.mpr ((edits_addAction s r action type).roleExists_iff r'))
  | removeAction r action type hd =>
    obtain ⟨⟨r', p⟩, hd⟩ := Option.isSome_iff_exists.mp hd
    exact sees_mixed hkeyed rfl hd
      (Bool.eq_iff_iff.mpr ((edits_removeAction s r action type).roleExists_iff r'))
  | @addRole role _ r p hd hne =>
    apply sees_mixed hkeyed rfl hd
    apply roleExists_other hkeyed
    simpa [RbacCall.cell] using hne.symm
  | @removeRole roleId _ r p hd hne =>
    apply sees_mixed hkeyed rfl hd
    apply roleExists_other hkeyed
    simpa [RbacCall.cell] using hne.symm

end Apart

/-- Independent calls commute where roles are stored under their own identifiers. -/
theorem apart_commute {s : Store} (hkeyed : Keyed s) {c d : RbacCall} (h : Apart c d) :
    Footprint.Commute (perform · c) (perform · d) s := by
  obtain ⟨hcell, hc, hd⟩ := h.sees hkeyed
  have hdisjoint : ∀ x ∈ ({c.cell} : Set Cell), x ∉ ({d.cell} : Set Cell) := by
    intro x hx hx'
    exact hcell ((Set.mem_singleton_iff.mp hx).symm.trans (Set.mem_singleton_iff.mp hx'))
  exact Footprint.commute_of_disjoint (fun _ _ => store_ext) (perform_bounded c)
    (perform_bounded d) hdisjoint hkeyed (keyed_step s (.rbac c) hkeyed)
    (keyed_step s (.rbac d) hkeyed) hc hd

/-- In every reachable state, two independent calls lead to the same store in either order,
and each of them returns or throws the same. -/
theorem independent_commute {s : Store} (hs : Runs.Reachable step Store.empty s)
    {c d : RbacCall} (h : Independent c d) : Footprint.Commute (perform · c) (perform · d) s := by
  have hkeyed : Keyed s := keyed_reachable hs
  rcases h with h | h
  · exact apart_commute hkeyed h
  · exact (apart_commute hkeyed h).symm

/-- Adding a role and revoking a principal's other role can be done in either order. -/
theorem readerAndWriter_commute :
    Footprint.Commute (perform · (.addRole ⟨text "admin", text "Admin", none⟩))
      (perform · (.removePrincipalFromRole (text "reader") (text "u")))
      (Runs.run step Store.empty readerAndWriter) :=
  independent_commute (Runs.reachable_run step _ _) (.inl (.addRole rfl (by decide)))

end CcfIdentity
