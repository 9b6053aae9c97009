import CcfIdentity.Base.Noninterference
import CcfIdentity.Network.Footprints
import CcfIdentity.Network.Grants

/-!
# Administration in separate scopes

A scope is a set of identifiers with the roles that are ever granted to them. The decisions
about its identifiers depend on the events about the scope only: whatever else callers and
governance did in the course of a run, and in whatever order, leaves no trace in them.
-/

open Utf16

namespace CcfIdentity

/-- Some of the identifiers and some of the roles. -/
structure Scope where
  ids : Text → Bool
  roles : Text → Bool

/-- The entries of the tables that belong to the scope; no decision reads a group's. -/
def Scope.covers (scope : Scope) : Cell → Bool
  | .role r => scope.roles r
  | .assignment id => scope.ids id
  | .principal id => scope.ids id
  | .group _ => false

/-- The only cell an accepted governance action may write. -/
def GovernanceAction.cell : GovernanceAction → Cell
  | .setServicePrincipal id _ => .principal id
  | .removeServicePrincipal id => .principal id
  | .setGroupId id _ => .group id
  | .removeGroupId id => .group id

/-- The only cell an event may write. -/
def Event.cell : Event → Cell
  | .rbac call => call.cell
  | .governance action => action.cell

/-- The event is about an entry of the scope. -/
def Scope.concerns (scope : Scope) (e : Event) : Bool := scope.covers e.cell

/-- An event on an assignment of the scope names a role of the scope, and so does the text of
its first grant. -/
def Scope.Closed (scope : Scope) : Event → Prop
  | .rbac (.assignPrincipalToRole r p) =>
    scope.ids p → scope.roles r ∧ ∀ x, .str x ∈ spliced r → scope.roles x
  | .rbac (.removePrincipalFromRole r p) => scope.ids p → scope.roles r
  | _ => True

/-- The stores have the same entries in the scope, and its identifiers hold roles of the
scope only. -/
structure Scope.Same (scope : Scope) (s t : Store) : Prop where
  cells : ∀ c, scope.covers c → t.read c = s.read c
  held : ∀ id r, scope.ids id → Holds s id r → scope.roles r

/-- A governance action leaves every other cell alone. -/
theorem read_govern (s : Store) (action : GovernanceAction) {c : Cell} (hc : c ≠ action.cell) :
    (govern s action).read c = s.read c := by
  cases c with
  | role r => rw [Store.read, (govern_frame s action).1]; rfl
  | assignment id => rw [Store.read, (govern_frame s action).2]; rfl
  | principal x =>
    cases action with
    | setServicePrincipal id name =>
      have hx : id ≠ x := fun heq => hc (heq ▸ rfl)
      exact (Table.getElem?_set s.idMap id x name).trans (if_neg hx)
    | removeServicePrincipal id =>
      have hx : id ≠ x := fun heq => hc (heq ▸ rfl)
      exact (Table.getElem?_delete s.idMap id x).trans (if_neg hx)
    | setGroupId id name | removeGroupId id => rfl
  | group x =>
    cases action with
    | setServicePrincipal id name | removeServicePrincipal id => rfl
    | setGroupId id name =>
      have hx : id ≠ x := fun heq => hc (heq ▸ rfl)
      exact (Table.getElem?_set s.groupMap id x name).trans (if_neg hx)
    | removeGroupId id =>
      have hx : id ≠ x := fun heq => hc (heq ▸ rfl)
      exact (Table.getElem?_delete s.groupMap id x).trans (if_neg hx)

/-- What a governance action writes does not depend on what was there. -/
theorem read_govern_cell (s t : Store) (action : GovernanceAction) :
    (govern t action).read action.cell = (govern s action).read action.cell := by
  cases action with
  | setServicePrincipal id name | setGroupId id name =>
    exact Std.ExtTreeMap.getElem?_insert_self.trans Std.ExtTreeMap.getElem?_insert_self.symm
  | removeServicePrincipal id | removeGroupId id =>
    exact Std.ExtTreeMap.getElem?_erase_self.trans Std.ExtTreeMap.getElem?_erase_self.symm

/-- An event leaves every other cell alone. -/
theorem read_step {s : Store} (hkeyed : Keyed s) (e : Event) {c : Cell} (hc : c ≠ e.cell) :
    (step s e).read c = s.read c := by
  cases e with
  | rbac call => exact read_perform hkeyed call hc
  | governance action => exact read_govern s action hc

section Scope

variable {scope : Scope} {s t : Store}

/-- A call about the scope sees the same in both stores. -/
theorem Scope.Same.sees (h : scope.Same s t) {call : RbacCall}
    (hconcerns : scope.concerns (.rbac call)) (hclosed : scope.Closed (.rbac call)) :
    Sees call s t := by
  have hrole : ∀ r, scope.roles r → t.roles[r]? = s.roles[r]? := fun r => h.cells (.role r)
  have hassignment : ∀ r p, scope.ids p → scope.roles r → roleExists t r = roleExists s r ∧
      principalExists t p = principalExists s p ∧
        t.roleAssignments[p]? = s.roleAssignments[p]? := by
    intro r p hp hr
    have hprincipal : t.idMap[p]? = s.idMap[p]? := h.cells (.principal p) hp
    refine ⟨by rw [roleExists_eq, roleExists_eq, hrole r hr], ?_, h.cells (.assignment p) hp⟩
    rw [Bool.eq_iff_iff, principalExists_iff, principalExists_iff, hprincipal]
  constructor
  · intro r hr
    cases call with
    | assignPrincipalToRole r' p | removePrincipalFromRole r' p => cases hr
    | _ =>
      cases Option.mem_def.mp hr
      exact hrole _ hconcerns
  · intro r p hrp
    cases call with
    | assignPrincipalToRole r' p' =>
      cases hrp
      exact hassignment r p hconcerns (hclosed hconcerns).1
    | removePrincipalFromRole r' p' =>
      cases hrp
      exact hassignment r p hconcerns (hclosed hconcerns)
    | _ => cases hrp

-- A closed event lists roles of the scope only for the identifiers of the scope.
private theorem held_step (hheld : ∀ id r, scope.ids id → Holds s id r → scope.roles r)
    {e : Event} (hclosed : scope.Closed e) (id x : Text) (hid : scope.ids id)
    (hx : Holds (step s e) id x) : scope.roles x := by
  by_cases hbefore : Holds s id x
  · exact hheld id x hid hbefore
  · obtain ⟨r, rfl⟩ := grant_of_new_holding hbefore hx
    rcases holds_assign hx with h | ⟨-, -, -, rfl | ⟨-, hspliced⟩⟩
    · exact absurd h hbefore
    · exact (hclosed hid).1
    · exact (hclosed hid).2 x hspliced

private theorem same_hidden (hkeyed : Keyed s) (h : scope.Same s t) {e : Event}
    (hclosed : scope.Closed e) (hconcerns : scope.concerns e = false) :
    scope.Same (step s e) t where
  cells c hc := by
    have hother : c ≠ e.cell := by
      rintro rfl
      rw [Scope.concerns, hc] at hconcerns
      cases hconcerns
    rw [read_step hkeyed e hother]
    exact h.cells c hc
  held := held_step h.held hclosed

private theorem same_visible (hs : Keyed s) (ht : Keyed t) (h : scope.Same s t) {e : Event}
    (hclosed : scope.Closed e) (hconcerns : scope.concerns e = true) :
    scope.Same (step s e) (step t e) where
  cells c hc := by
    by_cases hcell : c = e.cell
    · subst hcell
      cases e with
      | rbac call => exact (perform_sees hs (h.sees hconcerns hclosed)).2
      | governance action => exact read_govern_cell s t action
    · rw [read_step hs e hcell, read_step ht e hcell]
      exact h.cells c hc
  held := held_step h.held hclosed

/-- Events about other scopes make no difference to this one. -/
theorem scope_unwinding (scope : Scope) :
    Noninterference.Unwinding step Keyed scope.Closed scope.concerns scope.Same where
  keeps := keyed_step
  hidden _ _ _ hclosed hs h := same_hidden hs h hclosed
  visible _ _ _ hclosed hs ht h := same_visible hs ht h hclosed

/-- The check decides alike on stores that are the same in the scope of the token. -/
theorem Scope.Same.checkToken_eq (h : scope.Same s t) {token : JwtPayload}
    (htoken : ∀ id ∈ token.identifiers, scope.ids id) (path : Text) :
    checkToken s token path = checkToken t token path := by
  have hentry : ∀ id ∈ token.identifiers, t.roleAssignments[id]? = s.roleAssignments[id]? :=
    fun id hid => h.cells (.assignment id) (htoken id hid)
  refine checkToken_congr path (fun id hid => ?_) fun id hid role hrole => ?_
  · rw [getRolesForPrincipal_eq, getRolesForPrincipal_eq, hentry id hid]
  · cases role with
    | str r =>
      have hr : t.roles[r]? = s.roles[r]? :=
        h.cells (.role r) (h.held id r (htoken id hid) hrole)
      rw [rolePermissions_eq, rolePermissions_eq, permissionsOf, permissionsOf, hr]
    | _ => rfl

end Scope

/-- After any run, a request of identifiers of a closed scope has the outcome it would have
if the events about the scope were the only ones. -/
theorem checkAccess_purged (jwt_decode : Option Text → Except Failure JwtPayload) (scope : Scope)
    {events : List Event} (hclosed : ∀ e ∈ events, scope.Closed e) (request : Request)
    (htoken : ∀ token, decodeToken jwt_decode request = .ok token →
      ∀ id ∈ token.identifiers, scope.ids id) :
    checkAccess jwt_decode (Runs.run step Store.empty events) request =
      checkAccess jwt_decode (Runs.run step Store.empty (events.filter scope.concerns))
        request := by
  have hkeyed : Keyed Store.empty := keyed_reachable ⟨[], rfl⟩
  have hsame : scope.Same (Runs.run step Store.empty events)
      (Runs.run step Store.empty (events.filter scope.concerns)) := by
    apply Noninterference.run_purge (scope_unwinding scope) hkeyed hkeyed _ hclosed
    exact ⟨fun _ _ => rfl, fun id r _ hr => absurd hr (holds_empty id r)⟩
  cases hdecoded : decodeToken jwt_decode request with
  | error failure =>
    rw [checkAccess, checkAccess, hdecoded]
    rfl
  | ok token =>
    rw [checkAccess_of_decodeToken _ hdecoded, checkAccess_of_decodeToken _ hdecoded]
    exact hsame.checkToken_eq (htoken token hdecoded) request.path

/-- The principal of `readerAndWriter` with the role it is granted. -/
def readerScope : Scope := ⟨fun id => id == text "u", fun r => r == text "reader"⟩

/-- The second role of `readerAndWriter` leaves no trace in the principal's access. -/
theorem readerAndWriter_purged :
    checkAccess (fun _ => .ok ⟨some (text "u"), none⟩)
        (Runs.run step Store.empty readerAndWriter) (bearerRequest (text "/app/log")) =
      checkAccess (fun _ => .ok ⟨some (text "u"), none⟩)
        (Runs.run step Store.empty (readerAndWriter.filter readerScope.concerns))
        (bearerRequest (text "/app/log")) := by
  apply checkAccess_purged
  · intro e he
    simp only [readerAndWriter, List.mem_cons, List.not_mem_nil, or_false] at he
    rcases he with rfl | rfl | rfl | rfl
    · trivial
    · trivial
    · trivial
    · intro _
      refine ⟨rfl, fun x hx => ?_⟩
      rw [spliced_plain (by decide), List.mem_singleton] at hx
      cases hx
      rfl
  · intro token htoken id hid
    rw [decodeToken_bearerRequest] at htoken
    cases htoken
    simpa [JwtPayload.identifiers, JwtPayload.groups, readerScope] using hid

end CcfIdentity
