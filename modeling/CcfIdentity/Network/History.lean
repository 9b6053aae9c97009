import CcfIdentity.Network.ActionEffects

/-!
# Decisions by history

What the tables say of a role or of an identifier is what some event of the run brought
about and none has ended since. A positive answer of the check can therefore be read off
the events: a grant that still stands, of a role whose definition still lists the path.
-/

open Utf16

namespace CcfIdentity

/-! ### Events that bring about and end -/

/-- The event lists the role for the identifier: onto the list of its entry, or, where it has
no entry, through the text of a first grant. -/
def Grants (s : Store) (id r : Text) : Event → Prop
  | .rbac (.assignPrincipalToRole r' p) => p = id ∧ roleExists s r' ∧ principalExists s p ∧
    match s.roleAssignments[p]? with
    | some assignment => r = r' ∧ HasList assignment
    | none => .str r ∈ spliced r'
  | _ => False

/-- The event drops the entry of the identifier, whichever role it names. -/
def Revokes (s : Store) (id : Text) : Event → Prop
  | .rbac (.removePrincipalFromRole r p) => p = id ∧ roleExists s r ∧ principalExists s p
  | _ => False

/-- An addition of the type does not throw: there are no permissions yet, or they have the
list. -/
def Editable (type : ActionType) (permissions : Option Permission) : Prop :=
  type ≠ .other ∧ ∀ perm ∈ permissions, (type.list perm).isSome

/-- The event defines the role with the path in the list, or adds the path to it. -/
def Lists (s : Store) (type : ActionType) (r path : Text) : Event → Prop
  | .rbac (.addRole role) =>
    role.id = r ∧ ¬ roleExists s r ∧ path ∈ entries type role.permissions
  | .rbac (.updateRole role) =>
    role.id = r ∧ roleExists s r ∧ path ∈ entries type role.permissions
  | .rbac (.addAction r' action type') => r' = r ∧ type' = type ∧ action = path ∧
    roleExists s r ∧ Editable type (permissionsOf s r)
  | _ => False

/-- The event removes or redefines the role, filters the list for another action, or starts
the list over with another action. -/
def Drops (s : Store) (type : ActionType) (r path : Text) : Event → Prop
  | .rbac (.removeRole r') => r' = r
  | .rbac (.updateRole role) => role.id = r
  | .rbac (.removeAction r' action type') => r' = r ∧ type' = type ∧ path ≠ action
  | .rbac (.addAction r' action type') => r' = r ∧ type' = type ∧ path ≠ action ∧
    Rebuilds type (permissionsOf s r) ∧ action ∉ entries type (permissionsOf s r)
  | _ => False

/-- A grant of the role to the identifier still stands at the end of the run. -/
def HeldSince (events : List Event) (id r : Text) : Prop :=
  Runs.Since step (fun s e => Grants s id r e) (fun s e => Revokes s id e) Store.empty events

/-- The path has been listed for the role and not been dropped since. -/
def ListedSince (events : List Event) (type : ActionType) (r path : Text) : Prop :=
  Runs.Since step (fun s e => Lists s type r path e) (fun s e => Drops s type r path e)
    Store.empty events

/-! ### One event -/

/-- What an identifier holds after an event. -/
theorem holds_step (s : Store) (e : Event) (id r : Text) :
    Holds (step s e) id r ↔ Grants s id r e ∨ Holds s id r ∧ ¬ Revokes s id e := by
  cases e with
  | governance action =>
    rw [step, holds_congr (govern_frame s action).2]
    simp [Grants, Revokes]
  | rbac call =>
    cases call with
    | assignPrincipalToRole r' p =>
      rw [Holds, step, perform, rolesOf_assign]
      by_cases heffective : id = p ∧ roleExists s r' ∧ principalExists s p
      · rw [if_pos heffective]
        obtain ⟨rfl, hrole, hprincipal⟩ := heffective
        cases hentry : s.roleAssignments[id]? with
        | none =>
          have hnone : ¬ Holds s id r := by simp [Holds, rolesOf_eq, hentry]
          simp [granted, hentry, Grants, hrole, hprincipal, hnone]
        | some assignment =>
          rw [mem_granted hentry]
          simp [Grants, hrole, hprincipal, hentry, Revokes, HasList, or_comm]
      · rw [if_neg heffective]
        have hnot : ¬ Grants s id r (.rbac (.assignPrincipalToRole r' p)) := by
          rintro ⟨rfl, hrole, hprincipal, -⟩
          exact heffective ⟨rfl, hrole, hprincipal⟩
        simp [hnot, Revokes, Holds]
    | removePrincipalFromRole r' p =>
      rw [Holds, step, perform, rolesOf_revoke]
      split
      · next heffective =>
        obtain ⟨rfl, hrole, hprincipal⟩ := heffective
        simp [Grants, Revokes, hrole, hprincipal]
      · next heffective =>
        have hnot : ¬ Revokes s id (.rbac (.removePrincipalFromRole r' p)) := by
          rintro ⟨rfl, hrole, hprincipal⟩
          exact heffective ⟨rfl, hrole, hprincipal⟩
        simp [Grants, hnot, Holds]
    | _ =>
      rw [step, holds_congr (roleCall_frame s rfl)]
      simp [Grants, Revokes]

/-- Where an addition does not throw, it writes an edited role unless the action is there. -/
theorem edit_cases (type : ActionType) (permissions : Option Permission) (action : Text) :
    ((∀ edited, type.edit permissions action ≠ .ok (some edited)) ∧
        (Editable type permissions → action ∈ entries type permissions)) ∨
      Editable type permissions ∧ ∃ edited, type.edit permissions action = .ok (some edited) := by
  by_cases htype : type = .other
  · subst htype
    exact .inl ⟨fun edited h => (by cases h), fun h => absurd rfl h.1⟩
  · cases permissions with
    | none => exact .inr ⟨⟨htype, by simp⟩, _, edit_none htype action⟩
    | some perm =>
      cases hlist : type.list perm with
      | none =>
        refine .inl ⟨fun edited h => ?_, fun h => ?_⟩
        · rw [edit_missing htype hlist] at h
          cases h
        · have hsome := h.2 perm rfl
          rw [hlist] at hsome
          cases hsome
      | some elements =>
        have hentries : entries type (some perm) = elements := by
          rw [entries, Option.bind_some, hlist, Option.getD_some]
        have heditable : Editable type (some perm) := ⟨htype, by simp [hlist]⟩
        rw [edit_list hlist]
        by_cases hmem : action ∈ elements
        · exact .inl ⟨by simp [hmem], fun _ => hentries ▸ hmem⟩
        · exact .inr ⟨heditable, _, by rw [if_neg hmem]⟩

-- An addition that leaves the store as it is finds the action or throws.
private theorem addAction_kept_or_written {s : Store} (hkeyed : Keyed s) (r action : Text)
    (type : ActionType) :
    ((addAction s r action type).2 = s ∧ (roleExists s r → Editable type (permissionsOf s r) →
        action ∈ entries type (permissionsOf s r))) ∨
      roleExists s r ∧ Editable type (permissionsOf s r) ∧
        ∃ edited, Written s r action type edited (addAction s r action type).2 := by
  cases hrole : s.roles[r]? with
  | none =>
    refine .inl ⟨by rw [addAction_absent hrole], fun hexists => ?_⟩
    rw [roleExists_eq, hrole] at hexists
    cases hexists
  | some role =>
    have hexists : roleExists s r = true := (roleExists_iff s r).mpr ⟨role, hrole⟩
    have hperms : permissionsOf s r = role.permissions := by rw [permissionsOf, hrole]; rfl
    have hid : role.id = r := hkeyed r role hrole
    rw [hperms]
    rcases edit_cases type role.permissions action with ⟨hkept, hmem⟩ | ⟨heditable, edited, hedit⟩
    · left
      refine ⟨?_, fun _ => hmem⟩
      rw [addAction_existing hrole]
      cases hedit : type.edit role.permissions action with
      | error failure => rfl
      | ok permissions? =>
        cases permissions? with
        | none => rfl
        | some edited => exact absurd hedit (hkept edited)
    · have hframe : (perform s (.addAction r action type)).2.roleAssignments =
          s.roleAssignments := roleCall_frame s rfl
      refine .inr ⟨hexists, heditable, edited, hperms ▸ edited_of_edit hedit, fun x => ?_, hframe⟩
      rw [permissionsOf, role_addAction hrole hedit, hid]
      by_cases hx : x = r
      · rw [if_pos ⟨hx, hx ▸ hexists⟩, if_pos hx]
        rfl
      · rw [if_neg fun h => hx h.1, if_neg hx]
        rfl

private theorem entries_addAction {s : Store} (hkeyed : Keyed s) (type : ActionType)
    (r path : Text) (r' action : Text) (type' : ActionType) :
    path ∈ entries type (permissionsOf (addAction s r' action type').2 r) ↔
      Lists s type r path (.rbac (.addAction r' action type')) ∨
        path ∈ entries type (permissionsOf s r) ∧
          ¬ Drops s type r path (.rbac (.addAction r' action type')) := by
  rcases addAction_kept_or_written hkeyed r' action type' with
    ⟨hkept, hfound⟩ | ⟨hexists, heditable, edited, hwritten⟩
  · rw [hkept]
    constructor
    · intro hmem
      refine .inr ⟨hmem, ?_⟩
      rintro ⟨rfl, rfl, -, ⟨hdenied, perm, hperm, -⟩, hnew⟩
      obtain ⟨perm', hperm', elements, hlist, -⟩ := (mem_entries _ _ _).mp hmem
      have hexists : roleExists s r' = true := by
        obtain ⟨role, hrole, -⟩ := Option.bind_eq_some_iff.mp hperm
        exact (roleExists_iff s r').mpr ⟨role, hrole⟩
      refine hnew (hfound hexists ⟨by rw [hdenied]; simp, fun perm'' hperm'' => ?_⟩)
      rw [Option.mem_def.mp hperm', Option.mem_some_iff] at hperm''
      rw [← hperm'', Option.mem_def.mp hlist]
      rfl
    · rintro (⟨rfl, rfl, rfl, hexists, heditable⟩ | ⟨hmem, -⟩)
      · exact hfound hexists heditable
      · exact hmem
  · by_cases hpath : path = action
    · subst hpath
      rw [hwritten.mem_self]
      constructor
      · rintro (hmem | ⟨rfl, rfl⟩)
        · exact .inr ⟨hmem, fun hdrops => hdrops.2.2.1 rfl⟩
        · exact .inl ⟨rfl, rfl, rfl, hexists, heditable⟩
      · rintro (⟨rfl, rfl, -⟩ | ⟨hmem, -⟩)
        · exact .inr ⟨rfl, rfl⟩
        · exact .inl hmem
    · rw [hwritten.mem_other hpath]
      have hlists : ¬ Lists s type r path (.rbac (.addAction r' action type')) :=
        fun h => hpath h.2.2.1.symm
      rw [or_iff_right hlists]
      apply and_congr_right
      intro _
      apply not_congr
      constructor
      · rintro ⟨rfl, rfl, hrebuilds⟩
        exact ⟨rfl, rfl, hpath, hrebuilds, hwritten.edit.new⟩
      · rintro ⟨rfl, rfl, -, hrebuilds, -⟩
        exact ⟨rfl, rfl, hrebuilds⟩

private theorem entries_removeAction {s : Store} (hkeyed : Keyed s) (type : ActionType)
    (r path : Text) (r' action : Text) (type' : ActionType) :
    path ∈ entries type (permissionsOf (removeAction s r' action type').2 r) ↔
      path ∈ entries type (permissionsOf s r) ∧
        ¬ Drops s type r path (.rbac (.removeAction r' action type')) := by
  by_cases hlisted : ∃ role perm elements, s.roles[r']? = some role ∧
      role.permissions = some perm ∧ type'.list perm = some elements
  · obtain ⟨role, perm, elements, hrole, hperm, hlist⟩ := hlisted
    have hid : role.id = r' := hkeyed r' role hrole
    have hexists : roleExists s r' = true := (roleExists_iff s r').mpr ⟨role, hrole⟩
    have htype : type' ≠ .other := by
      rintro rfl
      cases hlist
    have hbefore : permissionsOf s r' = some perm := by rw [permissionsOf, hrole]; exact hperm
    rw [permissionsOf, role_removeAction hrole hperm hlist, hid]
    by_cases hr : r = r'
    · subst hr
      rw [if_pos ⟨rfl, hexists⟩, Option.bind_some, withList, hbefore]
      by_cases hsame : type = type'
      · subst hsame
        rw [entries, Option.bind_some, list_put htype, entries, Option.bind_some, hlist,
          Option.getD_some, Option.getD_some, List.mem_filter]
        simp [Drops]
      · rw [entries_put hsame]
        simp [Drops, Ne.symm hsame]
    · rw [if_neg fun h => hr h.1]
      simp [Drops, Ne.symm hr, permissionsOf]
  · have hkept : (removeAction s r' action type').2 = s := by
      rcases removeAction_cases s r' action type' with
        hkept | ⟨role, perm, elements, hrole, hperm, hlist, -⟩
      · exact hkept
      · exact absurd ⟨role, perm, elements, hrole, hperm, hlist⟩ hlisted
    rw [hkept, iff_self_and]
    rintro hmem ⟨rfl, rfl, -⟩
    obtain ⟨perm, hperm, elements, hlist, -⟩ := (mem_entries _ _ _).mp hmem
    obtain ⟨role, hrole, hperms⟩ := Option.bind_eq_some_iff.mp hperm
    exact hlisted ⟨role, perm, elements, hrole, hperms, hlist⟩

/-- What a role lists after an event. -/
theorem listed_step {s : Store} (hkeyed : Keyed s) (e : Event) (type : ActionType)
    (r path : Text) : path ∈ entries type (permissionsOf (step s e) r) ↔
      Lists s type r path e ∨
        path ∈ entries type (permissionsOf s r) ∧ ¬ Drops s type r path e := by
  have hframe : ∀ s' : Store, s'.roles = s.roles →
      permissionsOf s' r = permissionsOf s r := by
    intro s' hs'
    rw [permissionsOf, permissionsOf, hs']
  cases e with
  | governance action =>
    rw [step, hframe _ (govern_frame s action).1]
    simp [Lists, Drops]
  | rbac call =>
    cases call with
    | addRole role =>
      rw [step, perform, permissionsOf, role_addRole]
      by_cases hnew : r = role.id ∧ ¬ roleExists s r
      · rw [if_pos hnew]
        obtain ⟨rfl, habsent⟩ := hnew
        have hnone : permissionsOf s role.id = none := by
          rw [roleExists_eq, Option.isSome_iff_ne_none, not_not] at habsent
          rw [permissionsOf, habsent]
          rfl
        simp [Lists, habsent, hnone, entries]
      · rw [if_neg hnew]
        have hlists : ¬ Lists s type r path (.rbac (.addRole role)) :=
          fun h => hnew ⟨h.1.symm, h.2.1⟩
        simp [hlists, Drops, permissionsOf]
    | removeRole r' =>
      rw [step, perform, permissionsOf, role_removeRole]
      by_cases hr : r = r'
      · simp [hr, Lists, Drops, entries]
      · simp [hr, Ne.symm hr, Lists, Drops, permissionsOf]
    | updateRole role =>
      rw [step, perform, permissionsOf, role_updateRole]
      by_cases hold : r = role.id ∧ roleExists s r
      · rw [if_pos hold]
        obtain ⟨rfl, hexists⟩ := hold
        simp [Lists, Drops, hexists]
      · rw [if_neg hold]
        have hlists : ¬ Lists s type r path (.rbac (.updateRole role)) :=
          fun h => hold ⟨h.1.symm, h.2.1⟩
        rw [or_iff_right hlists]
        apply (and_iff_left_of_imp ?_).symm
        rintro hmem rfl
        obtain ⟨perm, hperm, -⟩ := (mem_entries _ _ _).mp hmem
        obtain ⟨stored, hstored, -⟩ := Option.bind_eq_some_iff.mp hperm
        exact hold ⟨rfl, (roleExists_iff s _).mpr ⟨stored, hstored⟩⟩
    | assignPrincipalToRole r' p =>
      rw [step, perform, hframe _ (assign_roles s r' p)]
      simp [Lists, Drops]
    | removePrincipalFromRole r' p =>
      rw [step, perform, hframe _ (revoke_roles s r' p)]
      simp [Lists, Drops]
    | addAction r' action type' => exact entries_addAction hkeyed type r path r' action type'
    | removeAction r' action type' =>
      rw [step, perform, entries_removeAction hkeyed]
      simp [Lists]

/-! ### Runs -/

/-- Holding a role is having been granted it without a revocation since. -/
theorem holds_iff_since (events : List Event) (id r : Text) :
    Holds (Runs.run step Store.empty events) id r ↔ HeldSince events id r :=
  Runs.iff_since (I := fun _ => True) (Q := fun s => Holds s id r) (fun _ _ _ => trivial)
    (fun s e _ => holds_step s e id r) trivial (holds_empty id r) events

/-- A path is in a role's list when it has been listed and not been dropped since. -/
theorem listed_iff_since (events : List Event) (type : ActionType) (r path : Text) :
    path ∈ entries type (permissionsOf (Runs.run step Store.empty events) r) ↔
      ListedSince events type r path := by
  have hkeyed : Keyed Store.empty := keyed_reachable ⟨[], rfl⟩
  have hnothing : path ∉ entries type (permissionsOf Store.empty r) := by
    simp [entries, permissionsOf, Store.empty]
  exact Runs.iff_since (Q := fun s => path ∈ entries type (permissionsOf s r)) keyed_step
    (fun s e h => listed_step h e type r path) hkeyed hnothing events

/-- In every run from the empty tables a request is let in exactly when it can be answered,
no standing grant of the individual is of a role that still denies the path, and some
standing grant of the token's is of a role that still allows it. -/
theorem checkAccess_true_iff_since (jwt_decode : Option Text → Except Failure JwtPayload)
    (events : List Event) (request : Request) (token : JwtPayload)
    (htoken : decodeToken jwt_decode request = .ok token) :
    checkAccess jwt_decode (Runs.run step Store.empty events) request = .ok true ↔
      Answered (Runs.run step Store.empty events) token request.path ∧
        (∀ oid ∈ token.oid, ∀ r, HeldSince events oid r →
          ¬ ListedSince events .denied r request.path) ∧
        ∃ id ∈ token.identifiers, ∃ r, HeldSince events id r ∧
          ListedSince events .allowed r request.path := by
  rw [checkAccess_of_decodeToken _ htoken, checkToken_ok_iff, decision_iff, ← allowed_iff]
  apply and_congr_right
  intro _
  have hlists : ∀ type r, ListedSince events type r request.path ↔
      ∃ perm ∈ permissionsOf (Runs.run step Store.empty events) r,
        ∃ elements ∈ type.list perm, request.path ∈ elements := by
    intro type r
    rw [← listed_iff_since, mem_entries]
  apply and_congr
  · constructor
    · intro h oid hoid r hheld hlisted
      have hmem : .str r ∈ individualRoles (Runs.run step Store.empty events) token :=
        (mem_individualRoles _ token _).mpr ⟨oid, hoid, (holds_iff_since events oid r).mpr hheld⟩
      exact h _ hmem ((lists_iff _ _ _ _).mpr ⟨r, rfl, (hlists .denied r).mp hlisted⟩)
    · intro h role hrole hdenied
      obtain ⟨r, rfl, hdenies⟩ := (lists_iff _ _ _ _).mp hdenied
      obtain ⟨oid, hoid, hmem⟩ := (mem_individualRoles _ token _).mp hrole
      exact h oid hoid r ((holds_iff_since events oid r).mp hmem) ((hlists .denied r).mpr hdenies)
  · constructor
    · rintro ⟨id, hid, r, hholds, hallows⟩
      exact ⟨id, hid, r, (holds_iff_since events id r).mp hholds, (hlists .allowed r).mpr hallows⟩
    · rintro ⟨id, hid, r, hheld, hlisted⟩
      exact ⟨id, hid, r, (holds_iff_since events id r).mpr hheld, (hlists .allowed r).mp hlisted⟩

/-- Before the principal is granted the second role, its access has a standing grant to come
from. -/
theorem deniedReader_held_since :
    ∃ id ∈ JwtPayload.identifiers ⟨some (text "u"), none⟩, ∃ r,
      HeldSince (deniedReader.take 4) id r ∧
        ListedSince (deniedReader.take 4) .allowed r (text "/app/log") :=
  ((checkAccess_true_iff_since (fun _ => .ok ⟨some (text "u"), none⟩) (deniedReader.take 4)
    logRequest ⟨some (text "u"), none⟩ (decodeToken_bearerRequest _ _)).mp rfl).2.2

end CcfIdentity
