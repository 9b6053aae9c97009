import CcfIdentity.Auth.Policy
import CcfIdentity.Network.Steps
import CcfIdentity.Rbac.Additions

/-!
# What an added action decides

Adding an allowed action can only let requests for that action in, adding a denied one only
keep them out, and only where the role is one of the token's. The exception is a denied
list that the call starts over: the individual's other denials in it are lost.
-/

open Utf16

namespace CcfIdentity

/-- The call moves the outcome of a request in the direction of its type, and only if the
request is for the action and the role is one of the token's. -/
structure MovesAsDirected (jwt_decode : Option Text → Except Failure JwtPayload) (s : Store)
    (r action : Text) (type : ActionType) (request : Request) (token : JwtPayload) : Prop where
  allowed : type = .allowed → checkAccess jwt_decode s request = .ok true →
    checkAccess jwt_decode (addAction s r action type).2 request ≠ .ok false
  denied : type = .denied → checkAccess jwt_decode s request = .ok false →
    checkAccess jwt_decode (addAction s r action type).2 request ≠ .ok true
  only : checkAccess jwt_decode (addAction s r action type).2 request ≠
      checkAccess jwt_decode s request →
    request.path = action ∧ ∃ id ∈ token.identifiers, Holds s id r

/-- The individual is kept out by the denied list of this role only, the call starts that
list over, and without it the request is let in or comes to a group's role that cannot be
read. -/
structure LosesDenial (s : Store) (r action : Text) (type : ActionType) (token : JwtPayload)
    (path : Text) : Prop where
  type : type = .denied
  list : ∃ notActions, permissionsOf s r = some ⟨none, some notActions⟩ ∧
    action ∉ notActions ∧ path ∈ notActions
  individual : ∃ oid ∈ token.oid, Holds s oid r ∧
    ∀ x, x ≠ r → Holds s oid x → ¬ (policy s).denies x path
  beyond : (policy s).Allowed token.all path ∨
    ∃ id ∈ token.groups, ∃ role ∈ rolesOf s id, ¬ Readable s role

/-! ### What the scans find after the call -/

/-- What a scan finds, in terms of the entries of a list. -/
theorem lists_entries (s : Store) (type : ActionType) (path : Text) (role : Json) :
    lists s type.list path role = true ↔
      ∃ x, role = .str x ∧ path ∈ entries type (permissionsOf s x) := by
  rw [lists_iff]
  simp only [mem_entries]

/-- A call that writes has edited the permissions of its role and of no other. -/
structure Written (s : Store) (r action : Text) (type : ActionType) (edited : Permission)
    (s' : Store) : Prop where
  edit : Edited type action (permissionsOf s r) edited
  permissions : ∀ x, permissionsOf s' x = if x = r then some edited else permissionsOf s x
  assignments : s'.roleAssignments = s.roleAssignments

/-- The call writes nothing or an edited role. -/
theorem written_of_addAction {s : Store} (hkeyed : Keyed s) (r action : Text)
    (type : ActionType) : (addAction s r action type).2 = s ∨
      ∃ edited, Written s r action type edited (addAction s r action type).2 := by
  rcases addAction_cases s r action type with hkept | ⟨role, edited, hrole, hedit, -⟩
  · exact .inl hkept
  · have hid : role.id = r := hkeyed r role hrole
    have hexists : roleExists s r = true := (roleExists_iff s r).mpr ⟨role, hrole⟩
    have hframe : (perform s (.addAction r action type)).2.roleAssignments = s.roleAssignments :=
      roleCall_frame s rfl
    right
    refine ⟨edited, ?_, fun x => ?_, hframe⟩
    · rw [permissionsOf, hrole]
      exact edited_of_edit hedit
    · rw [permissionsOf, role_addAction hrole hedit, hid]
      by_cases hx : x = r
      · rw [if_pos ⟨hx, hx ▸ hexists⟩, if_pos hx]
        rfl
      · rw [if_neg fun h => hx h.1, if_neg hx]
        rfl

section Written

variable {s s' : Store} {r action : Text} {type : ActionType} {edited : Permission}

/-- The edited role can be read, and whatever could be read still can. -/
theorem Written.readable (h : Written s r action type edited s') {role : Json}
    (hread : Readable s role) : Readable s' role := by
  obtain ⟨x, rfl, perm, hperm⟩ := (readable_iff s role).mp hread
  apply (readable_iff s' _).mpr
  refine ⟨x, rfl, ?_⟩
  change ∃ perm, permissionsOf s' x = some perm
  rw [h.permissions]
  split
  · exact ⟨edited, rfl⟩
  · exact ⟨perm, hperm⟩

/-- Another path has its entries as before, except in a list that starts over. -/
theorem Written.mem_other (h : Written s r action type edited s') {path : Text}
    (hpath : path ≠ action) (type' : ActionType) (x : Text) :
    path ∈ entries type' (permissionsOf s' x) ↔ path ∈ entries type' (permissionsOf s x) ∧
      ¬ (x = r ∧ type' = type ∧ Rebuilds type (permissionsOf s r)) := by
  rw [h.permissions]
  by_cases hx : x = r
  · subst hx
    rw [if_pos rfl]
    by_cases htype : type' = type
    · subst htype
      by_cases hrebuilds : Rebuilds type' (permissionsOf s x)
      · rw [h.edit.rebuilt hrebuilds, List.mem_singleton]
        exact iff_of_false hpath fun hboth => hboth.2 ⟨rfl, rfl, hrebuilds⟩
      · rw [h.edit.extended hrebuilds]
        simp [hpath, hrebuilds]
    · rw [h.edit.others type' htype]
      simp [htype]
  · rw [if_neg hx]
    simp [hx]

/-- The action itself is where it was, and in the list just written. -/
theorem Written.mem_self (h : Written s r action type edited s') (type' : ActionType)
    (x : Text) : action ∈ entries type' (permissionsOf s' x) ↔
      action ∈ entries type' (permissionsOf s x) ∨ x = r ∧ type' = type := by
  rw [h.permissions]
  by_cases hx : x = r
  · subst hx
    rw [if_pos rfl]
    by_cases htype : type' = type
    · subst htype
      by_cases hrebuilds : Rebuilds type' (permissionsOf s x)
      · simp [h.edit.rebuilt hrebuilds]
      · simp [h.edit.extended hrebuilds]
    · rw [h.edit.others type' htype]
      simp [htype]
  · rw [if_neg hx]
    simp [hx]

private theorem Written.rolesOf_eq (h : Written s r action type edited s') :
    rolesOf s' = rolesOf s := funext (rolesOf_congr h.assignments)

private theorem Written.lookup_eq (h : Written s r action type edited s') (id : Text) :
    getRolesForPrincipal s' id = getRolesForPrincipal s id := by
  rw [getRolesForPrincipal_eq, getRolesForPrincipal_eq, h.assignments]

private theorem Written.individualRoles_eq (h : Written s r action type edited s')
    (token : JwtPayload) : individualRoles s' token = individualRoles s token := by
  rw [individualRoles, individualRoles, h.rolesOf_eq]

private theorem Written.groupRoles_eq (h : Written s r action type edited s')
    (token : JwtPayload) : groupRoles s' token = groupRoles s token := by
  rw [groupRoles, groupRoles, h.rolesOf_eq]

/-- Where the request was answered before, it still is, unless the individual is no longer
denied and a group's role cannot be read. -/
theorem Written.answered (h : Written s r action type edited s') {token : JwtPayload}
    {path : Text} (hanswered : Answered s token path)
    (hrest : (∃ role ∈ individualRoles s token, lists s' (·.notActions) path role) ∨
      ∀ role ∈ groupRoles s token, Readable s' role) : Answered s' token path where
  groups id hid := by
    rw [WellAssigned, h.lookup_eq]
    exact hanswered.groups id hid
  individual oid hoid := by
    rw [h.lookup_eq]
    exact hanswered.individual oid hoid
  readable := by
    rw [h.individualRoles_eq]
    exact fun role hrole => h.readable (hanswered.readable role hrole)
  denied_or_readable := by
    rwa [h.individualRoles_eq, h.groupRoles_eq]

private theorem Written.lists_self (h : Written s r action type edited s') (type' : ActionType)
    (role : Json) : lists s' type'.list action role = true ↔
      lists s type'.list action role = true ∨ role = .str r ∧ type' = type := by
  cases role with
  | str x => simp [lists_entries, h.mem_self]
  | _ => simp [lists_entries]

private theorem Written.lists_other (h : Written s r action type edited s') {path : Text}
    (hpath : path ≠ action) (type' : ActionType) (role : Json) :
    lists s' type'.list path role = true ↔ lists s type'.list path role = true ∧
      ¬ (role = .str r ∧ type' = type ∧ Rebuilds type (permissionsOf s r)) := by
  cases role with
  | str x => simp [lists_entries, h.mem_other hpath]
  | _ => simp [lists_entries]

/-! ### Requests for the action -/

-- Denials are as before, and what allowed the request still does.
private theorem Written.allowed_self (h : Written s r action .allowed edited s')
    {token : JwtPayload} (hanswered : Answered s token action)
    (hyes : decision s token action = true) : checkToken s' token action = .ok true := by
  obtain ⟨hundenied, role, hrole, hallows⟩ := (decision_iff s token action).mp hyes
  have hdenies : ∀ role, lists s' (·.notActions) action role = true ↔
      lists s (·.notActions) action role = true := fun role =>
    (h.lists_self .denied role).trans (or_iff_left fun hr => absurd hr.2 (by decide))
  have hread : ∀ role ∈ groupRoles s token, Readable s' role := by
    intro role hrole
    refine h.readable ((hanswered.denied_or_readable.resolve_left ?_) role hrole)
    rintro ⟨denier, hdenier, hdenied⟩
    exact hundenied denier hdenier hdenied
  apply checkToken_ok_iff.mpr
  refine ⟨h.answered hanswered (.inr hread), (decision_iff s' token action).mpr ⟨?_, role, ?_, ?_⟩⟩
  · rw [h.individualRoles_eq]
    exact fun denier hdenier hdenied => hundenied denier hdenier ((hdenies denier).mp hdenied)
  · rwa [h.rolesOf_eq]
  · exact (h.lists_self .allowed role).mpr (.inl hallows)

-- Allowances are as before, and what denied the request still does.
private theorem Written.denied_self (h : Written s r action .denied edited s')
    {token : JwtPayload} (hno : decision s token action = false) :
    checkToken s' token action ≠ .ok true := by
  intro hyes
  obtain ⟨hundenied, role, hrole, hallows⟩ :=
    (decision_iff s' token action).mp (checkToken_ok_iff.mp hyes).2
  rw [h.individualRoles_eq] at hundenied
  rw [h.rolesOf_eq] at hrole
  have hbefore : decision s token action = true := by
    apply (decision_iff s token action).mpr
    refine ⟨fun denier hdenier hdenied => hundenied denier hdenier ?_, role, hrole, ?_⟩
    · exact (h.lists_self .denied denier).mpr (.inl hdenied)
    · exact ((h.lists_self .allowed role).mp hallows).resolve_right
        fun hr => absurd hr.2 (by decide)
  rw [hno] at hbefore
  cases hbefore

private theorem Written.unheld (h : Written s r action type edited s') {token : JwtPayload}
    (path : Text) (hunheld : ∀ id ∈ token.identifiers, ¬ Holds s id r) :
    checkToken s' token path = checkToken s token path := by
  refine (checkToken_congr path (fun id _ => (h.lookup_eq id).symm) fun id hid role hrole => ?_).symm
  cases role with
  | str x =>
    have hx : x ≠ r := fun heq => hunheld id hid (heq ▸ hrole)
    have hsame : permissionsOf s' x = permissionsOf s x := by rw [h.permissions, if_neg hx]
    rw [rolePermissions_eq, rolePermissions_eq, hsame]
  | _ => rfl

/-! ### Requests for other paths -/

-- Only a denied list can start over.
private theorem Written.allows_other (h : Written s r action type edited s') {path : Text}
    (hpath : path ≠ action) (role : Json) : lists s' (·.actions) path role = true ↔
      lists s (·.actions) path role = true := by
  apply (h.lists_other hpath .allowed role).trans
  apply and_iff_left
  rintro ⟨-, htype, hrebuilds⟩
  exact absurd (htype.trans hrebuilds.1) (by decide)

-- Unless a denial of the individual is lost, the scans find what they found before.
private theorem Written.kept_other (h : Written s r action type edited s') {token : JwtPayload}
    {path : Text} (hpath : path ≠ action) (hanswered : Answered s token path)
    (hkept : Rebuilds type (permissionsOf s r) →
      ∀ role ∈ individualRoles s token, lists s (·.notActions) path role → role ≠ .str r) :
    checkToken s' token path = checkToken s token path := by
  have hdenies : ∀ role ∈ individualRoles s token,
      (lists s' (·.notActions) path role = true ↔ lists s (·.notActions) path role = true) := by
    intro role hrole
    apply (h.lists_other hpath .denied role).trans
    exact and_iff_left_of_imp fun hdenied hr => hkept hr.2.2 role hrole hdenied hr.1
  have hrest : (∃ role ∈ individualRoles s token, lists s' (·.notActions) path role) ∨
      ∀ role ∈ groupRoles s token, Readable s' role := by
    apply hanswered.denied_or_readable.imp
    · rintro ⟨role, hrole, hdenied⟩
      exact ⟨role, hrole, (hdenies role hrole).mpr hdenied⟩
    · exact fun hread role hrole => h.readable (hread role hrole)
  have hdecision : decision s' token path = decision s token path := by
    rw [Bool.eq_iff_iff, decision_iff, decision_iff, h.individualRoles_eq, h.rolesOf_eq]
    apply and_congr
    · exact forall₂_congr fun role hrole => not_congr (hdenies role hrole)
    · exact exists_congr fun role => and_congr_right fun _ => h.allows_other hpath role
  rw [checkToken_answered hanswered, checkToken_answered (h.answered hanswered hrest), hdecision]

-- A list that starts over was there before, so its role could be read.
private theorem Written.readable_iff (h : Written s r action type edited s')
    (hrebuilds : Rebuilds type (permissionsOf s r)) (role : Json) :
    Readable s' role ↔ Readable s role := by
  constructor
  · intro hread
    obtain ⟨x, rfl, perm, hperm⟩ := (CcfIdentity.readable_iff s' role).mp hread
    apply (CcfIdentity.readable_iff s _).mpr
    refine ⟨x, rfl, ?_⟩
    change permissionsOf s' x = some perm at hperm
    rw [h.permissions] at hperm
    split at hperm
    · next hx =>
      obtain ⟨-, old, hold, -⟩ := hrebuilds
      exact ⟨old, hx ▸ hold⟩
    · exact ⟨perm, hperm⟩
  · exact h.readable

-- The individual was kept out, and still is exactly for another reason.
private theorem Written.lost_other (h : Written s r action type edited s') {token : JwtPayload}
    {path : Text} (hpath : path ≠ action) (hanswered : Answered s token path)
    (hrebuilds : Rebuilds type (permissionsOf s r)) (hheld : .str r ∈ individualRoles s token)
    (hdenied : lists s (·.notActions) path (.str r)) :
    checkToken s' token path = checkToken s token path ↔
      (∃ role ∈ individualRoles s token, role ≠ .str r ∧ lists s (·.notActions) path role) ∨
        (∀ role ∈ groupRoles s token, Readable s role) ∧
          ¬ ∃ role ∈ token.identifiers.flatMap (rolesOf s), lists s (·.actions) path role := by
  have hbefore : checkToken s token path = .ok false := by
    refine checkToken_ok_iff.mpr ⟨hanswered, Bool.eq_false_iff.mpr fun hyes => ?_⟩
    exact ((decision_iff s token path).mp hyes).1 _ hheld hdenied
  have hdenies : ∀ role, lists s' (·.notActions) path role = true ↔
      lists s (·.notActions) path role = true ∧ role ≠ .str r := by
    intro role
    apply (h.lists_other hpath .denied role).trans
    apply and_congr_right
    intro _
    exact not_congr ⟨And.left, fun hr => ⟨hr, hrebuilds.1.symm, hrebuilds⟩⟩
  rw [hbefore, checkToken_ok_iff, Bool.eq_false_iff, ne_eq, decision_iff, h.individualRoles_eq,
    h.rolesOf_eq]
  constructor
  · rintro ⟨hafter, hno⟩
    apply or_iff_not_imp_left.mpr
    intro hother
    have hundenied : ∀ role ∈ individualRoles s token, ¬ lists s' (·.notActions) path role :=
      fun role hrole hd => hother ⟨role, hrole, ((hdenies role).mp hd).symm⟩
    constructor
    · intro role hrole
      have hread := hafter.denied_or_readable.resolve_left fun ⟨denier, hdenier, hd⟩ =>
        hundenied denier (h.individualRoles_eq token ▸ hdenier) hd
      exact (h.readable_iff hrebuilds role).mp (hread role (h.groupRoles_eq token ▸ hrole))
    · rintro ⟨role, hrole, hallowed⟩
      exact hno ⟨hundenied, role, hrole, (h.allows_other hpath role).mpr hallowed⟩
  · rintro (⟨role, hrole, hne, hd⟩ | ⟨hread, hunallowed⟩)
    · have hd' : lists s' (·.notActions) path role := (hdenies role).mpr ⟨hd, hne⟩
      exact ⟨h.answered hanswered (.inl ⟨role, hrole, hd'⟩), fun hyes => hyes.1 role hrole hd'⟩
    · refine ⟨h.answered hanswered (.inr fun role hrole => h.readable (hread role hrole)), ?_⟩
      rintro ⟨-, role, hrole, hallowed⟩
      exact hunallowed ⟨role, hrole, (h.allows_other hpath role).mp hallowed⟩

end Written

/-! ### The direction of a call -/

/-- A denied list without an allowed one beside it is written with the new action alone. -/
theorem addAction_startsOver {s : Store} (hkeyed : Keyed s) {r action : Text}
    {notActions : List Text} (hlist : permissionsOf s r = some ⟨none, some notActions⟩)
    (hnew : action ∉ notActions) :
    permissionsOf (addAction s r action .denied).2 r = some ⟨none, some [action]⟩ := by
  obtain ⟨role, hrole, hperms⟩ := Option.bind_eq_some_iff.mp hlist
  have hid : role.id = r := hkeyed r role hrole
  have hexists : roleExists s r = true := (roleExists_iff s r).mpr ⟨role, hrole⟩
  have hedit : ActionType.denied.edit role.permissions action =
      .ok (some ⟨none, some [action]⟩) := by
    rw [hperms, edit_list rfl, if_neg hnew]
    rfl
  rw [permissionsOf, role_addAction hrole hedit, if_pos ⟨hid.symm, hexists⟩]
  rfl

private theorem losesDenial_iff (s : Store) (r action : Text) (type : ActionType)
    (token : JwtPayload) (path : Text) : LosesDenial s r action type token path ↔
      action ∉ entries .denied (permissionsOf s r) ∧ Rebuilds type (permissionsOf s r) ∧
      .str r ∈ individualRoles s token ∧ lists s (·.notActions) path (.str r) ∧
      ¬ ((∃ role ∈ individualRoles s token, role ≠ .str r ∧ lists s (·.notActions) path role) ∨
        (∀ role ∈ groupRoles s token, Readable s role) ∧
          ¬ ∃ role ∈ token.identifiers.flatMap (rolesOf s), lists s (·.actions) path role) := by
  have hunread : (∃ id ∈ token.groups, ∃ role ∈ rolesOf s id, ¬ Readable s role) ↔
      ¬ ∀ role ∈ groupRoles s token, Readable s role := by
    constructor
    · rintro ⟨id, hid, role, hrole, hnot⟩ hall
      exact hnot (hall role ((mem_groupRoles s token role).mpr ⟨id, hid, hrole⟩))
    · intro hall
      obtain ⟨role, hrole, hnot⟩ : ∃ role ∈ groupRoles s token, ¬ Readable s role := by
        simpa using hall
      obtain ⟨id, hid, hmem⟩ := (mem_groupRoles s token role).mp hrole
      exact ⟨id, hid, role, hmem, hnot⟩
  rw [not_or, not_and_or, not_not, ← hunread, ← allowed_iff, or_comm (b := (policy s).Allowed _ _)]
  constructor
  · rintro ⟨htype, ⟨notActions, hlist, hnew, hpath⟩, ⟨oid, hoid, hholds, honly⟩, hrest⟩
    have hdenies : (policy s).denies r path := ⟨_, hlist, notActions, rfl, hpath⟩
    refine ⟨?_, ⟨htype, _, hlist, rfl⟩, (mem_individualRoles s token _).mpr ⟨oid, hoid, hholds⟩,
      (lists_notActions_iff s path r).mpr hdenies, ?_, hrest⟩
    · rw [hlist]
      exact hnew
    · rintro ⟨role, hrole, hne, hdenied⟩
      obtain ⟨x, rfl, hx⟩ := (lists_iff s _ path role).mp hdenied
      obtain ⟨oid', hoid', hx'⟩ := (mem_individualRoles s token _).mp hrole
      have hsame : oid' = oid := Option.some.inj (hoid'.symm.trans hoid)
      exact honly x (fun heq => hne (heq ▸ rfl)) (hsame ▸ hx') hx
  · rintro ⟨hnew, ⟨htype, perm, hperm, hactions⟩, hheld, hdenied, hother, hrest⟩
    obtain ⟨oid, hoid, hholds⟩ := (mem_individualRoles s token _).mp hheld
    obtain ⟨perm', hperm', notActions, hlist, hpath⟩ := (lists_notActions_iff s path r).mp hdenied
    have hsame : perm' = perm := Option.some.inj (hperm'.symm.trans hperm)
    subst hsame
    obtain ⟨actions, notActions'⟩ := perm'
    cases hactions
    cases hlist
    rw [Option.mem_def.mp hperm] at hnew
    refine ⟨htype, ⟨notActions, hperm, hnew, hpath⟩, ⟨oid, hoid, hholds, ?_⟩, hrest⟩
    intro x hne hx hdenies
    refine hother ⟨.str x, (mem_individualRoles s token _).mpr ⟨oid, hoid, hx⟩, ?_, ?_⟩
    · exact fun heq => hne (Json.str.inj heq)
    · exact (lists_notActions_iff s path x).mpr hdenies

private theorem moves_of_same {jwt_decode : Option Text → Except Failure JwtPayload} {s : Store}
    {r action : Text} {type : ActionType} {request : Request} {token : JwtPayload}
    (hsame : checkAccess jwt_decode (addAction s r action type).2 request =
      checkAccess jwt_decode s request) :
    MovesAsDirected jwt_decode s r action type request token := by
  refine ⟨fun _ hyes => ?_, fun _ hno => ?_, fun hmoved => absurd hsame hmoved⟩
  · rw [hsame, hyes]
    simp
  · rw [hsame, hno]
    simp

-- For another path, moving as directed is not moving at all.
private theorem moves_other_iff {jwt_decode : Option Text → Except Failure JwtPayload} {s : Store}
    {r action : Text} {type : ActionType} {request : Request} {token : JwtPayload}
    (hpath : request.path ≠ action) :
    MovesAsDirected jwt_decode s r action type request token ↔
      checkAccess jwt_decode (addAction s r action type).2 request =
        checkAccess jwt_decode s request := by
  refine ⟨fun h => ?_, moves_of_same⟩
  exact by_contra fun hmoved => hpath (h.only hmoved).1

-- For the action itself the outcome moves in the direction of the type.
private theorem moves_self {jwt_decode : Option Text → Except Failure JwtPayload} {s : Store}
    {r action : Text} {type : ActionType} {request : Request} {token : JwtPayload}
    (htoken : decodeToken jwt_decode request = .ok token) (hpath : request.path = action)
    (hanswered : Answered s token action) {edited : Permission}
    (hwritten : Written s r action type edited (addAction s r action type).2) :
    MovesAsDirected jwt_decode s r action type request token := by
  have haccess : ∀ s', checkAccess jwt_decode s' request = checkToken s' token action :=
    fun s' => hpath ▸ checkAccess_of_decodeToken s' htoken
  constructor
  · rintro rfl hyes
    rw [haccess] at hyes ⊢
    rw [hwritten.allowed_self hanswered (checkToken_ok_iff.mp hyes).2]
    simp
  · rintro rfl hno
    rw [haccess] at hno ⊢
    exact hwritten.denied_self (checkToken_ok_iff.mp hno).2
  · intro hmoved
    refine ⟨hpath, by_contra fun hunheld => hmoved ?_⟩
    rw [haccess, haccess]
    exact hwritten.unheld action fun id hid hholds => hunheld ⟨id, hid, hholds⟩

/-- Where the request was answered before the call, the call moves its outcome as directed
unless it loses a denial. -/
theorem addAction_moves_iff (jwt_decode : Option Text → Except Failure JwtPayload) {s : Store}
    (hs : Runs.Reachable step Store.empty s) (r action : Text) (type : ActionType)
    (request : Request) (token : JwtPayload) (htoken : decodeToken jwt_decode request = .ok token)
    (hanswer : ∃ answer, checkAccess jwt_decode s request = .ok answer) :
    MovesAsDirected jwt_decode s r action type request token ↔
      ¬ LosesDenial s r action type token request.path := by
  have hkeyed : Keyed s := keyed_reachable hs
  have haccess : ∀ s', checkAccess jwt_decode s' request = checkToken s' token request.path :=
    fun s' => checkAccess_of_decodeToken s' htoken
  obtain ⟨answer, hanswer⟩ := hanswer
  rw [haccess] at hanswer
  have hanswered : Answered s token request.path := (checkToken_ok_iff.mp hanswer).1
  by_cases hpath : request.path = action
  · apply iff_of_true
    · rcases written_of_addAction hkeyed r action type with hkept | ⟨edited, hwritten⟩
      · exact moves_of_same (by rw [hkept])
      · exact moves_self htoken hpath (hpath ▸ hanswered) hwritten
    · intro hlost
      obtain ⟨notActions, -, hnew, hmem⟩ := hlost.list
      exact hnew (hpath ▸ hmem)
  · rw [moves_other_iff hpath, haccess, haccess]
    rcases written_of_addAction hkeyed r action type with hkept | ⟨edited, hwritten⟩
    · rw [hkept]
      apply iff_of_true rfl
      intro hlost
      obtain ⟨notActions, hlist, hnew, -⟩ := hlost.list
      have hover := addAction_startsOver hkeyed hlist hnew
      rw [← hlost.type, hkept, hlist] at hover
      have hsame : notActions = [action] := by simpa using hover
      exact hnew (hsame ▸ List.mem_singleton_self action)
    · by_cases hheld : Rebuilds type (permissionsOf s r) ∧ .str r ∈ individualRoles s token ∧
        lists s (·.notActions) request.path (.str r)
      · obtain ⟨hrebuilds, hheld, hdenied⟩ := hheld
        have hnew : action ∉ entries .denied (permissionsOf s r) := hrebuilds.1 ▸ hwritten.edit.new
        rw [hwritten.lost_other hpath hanswered hrebuilds hheld hdenied, losesDenial_iff]
        simp only [hnew, hrebuilds, hheld, hdenied, not_false_eq_true, true_and, not_not]
      · apply iff_of_true
        · apply hwritten.kept_other hpath hanswered
          rintro hrebuilds role hrole hdenied rfl
          exact hheld ⟨hrebuilds, hrole, hdenied⟩
        · intro hlost
          obtain ⟨-, hrebuilds, hmem, hdenied, -⟩ := (losesDenial_iff ..).mp hlost
          exact hheld ⟨hrebuilds, hmem, hdenied⟩

/-- The principal `u` is granted a role that allows `/app/log` and one with denied actions
only, among them `/app/log`. -/
def deniedReader : List Event :=
  [.governance (.setServicePrincipal (text "u") (text "user")),
    .rbac (.addRole ⟨text "reader", text "Reader", some ⟨some [text "/app/log"], none⟩⟩),
    .rbac (.addRole ⟨text "blocked", text "Blocked", some ⟨none, some [text "/app/log"]⟩⟩),
    .rbac (.assignPrincipalToRole (text "reader") (text "u")),
    .rbac (.assignPrincipalToRole (text "blocked") (text "u"))]

/-- Denying the second role another action lets the principal in where it was kept out. -/
theorem deniedReader_let_in :
    checkAccess (fun _ => .ok ⟨some (text "u"), none⟩)
        (Runs.run step Store.empty deniedReader) logRequest = .ok false ∧
      checkAccess (fun _ => .ok ⟨some (text "u"), none⟩)
        (addAction (Runs.run step Store.empty deniedReader) (text "blocked") (text "/app/put")
          .denied).2 logRequest = .ok true ∧
      ¬ MovesAsDirected (fun _ => .ok ⟨some (text "u"), none⟩)
        (Runs.run step Store.empty deniedReader) (text "blocked") (text "/app/put") .denied
        logRequest ⟨some (text "u"), none⟩ :=
  ⟨rfl, rfl, fun h => h.denied rfl rfl rfl⟩

/-- Allowing the first role another action moves nothing that it should not. -/
theorem deniedReader_allowed :
    MovesAsDirected (fun _ => .ok ⟨some (text "u"), none⟩)
      (Runs.run step Store.empty deniedReader) (text "reader") (text "/app/put") .allowed
      logRequest ⟨some (text "u"), none⟩ := by
  apply (addAction_moves_iff _ (Runs.reachable_run step _ _) _ _ _ _ _
    (decodeToken_bearerRequest _ _) ⟨false, rfl⟩).mpr
  intro hlost
  cases hlost.type

end CcfIdentity
