import CcfIdentity.Base.Refinement
import CcfIdentity.Constitution.Steps
import CcfIdentity.Logapp.Endpoints
import CcfIdentity.Network.Refusals

/-!
# Transactions of the sample application

The sample application under the sample constitution: an event is a proposed action that is
enacted, or a request to one of the endpoints of `samples/logapp/app.json`. The node takes
either as a transaction. What the transactions make of the package's tables is a run of its
operations, so that everything known of those runs holds of them.
-/

open Utf16

namespace CcfIdentity.Logapp

/-- A request to an endpoint, `samples/logapp/app.json:3–90`. A role in a body has the shape
that its handler declares. -/
inductive Call where
  | getLogItem (request : Request Unit)
  | setLogItem (request : Request Json)
  | getRbacRole (request : Request Unit)
  | addRbacRole (request : Request IRoleDefinition)
  | removeRbacRole (request : Request Unit)
  | updateRbacRole (request : Request IRoleDefinition)
  | assignPrincipalToRbacRole (request : Request Json)
  | removePrincipalFromRbacRole (request : Request Json)
  | isInRbacRole (request : Request Unit)

/-- An endpoint of `app.json`: what it is called by, the function that answers it, and its
mode. -/
structure Route where
  method : String
  url : String
  js_module : String
  js_function : String
  mode : String
deriving DecidableEq

/-- `app.json:3–90`, with the methods as requests have them. -/
def Call.route : Call → Route
  | .getLogItem _ => ⟨"GET", "/log", "endpoints/log.js", "getLogItem", "readonly"⟩
  | .setLogItem _ => ⟨"POST", "/log", "endpoints/log.js", "setLogItem", "readwrite"⟩
  | .getRbacRole _ => ⟨"GET", "/roles", "endpoints/rbac.js", "getRbacRole", "readonly"⟩
  | .addRbacRole _ => ⟨"POST", "/roles", "endpoints/rbac.js", "addRbacRole", "readwrite"⟩
  | .removeRbacRole _ =>
    ⟨"DELETE", "/roles", "endpoints/rbac.js", "removeRbacRole", "readwrite"⟩
  | .updateRbacRole _ => ⟨"PUT", "/roles", "endpoints/rbac.js", "updateRbacRole", "readwrite"⟩
  | .assignPrincipalToRbacRole _ => ⟨"POST", "/roleAssignments", "endpoints/rbac.js",
      "assignPrincipalToRbacRole", "readwrite"⟩
  | .removePrincipalFromRbacRole _ => ⟨"DELETE", "/roleAssignments", "endpoints/rbac.js",
      "removePrincipalFromRbacRole", "readwrite"⟩
  | .isInRbacRole _ => ⟨"GET", "/checkRole", "endpoints/rbac.js", "isInRbacRole", "readonly"⟩

/-- Who makes the request. -/
def Call.caller : Call → Caller
  | .getLogItem request | .getRbacRole request | .removeRbacRole request
  | .isInRbacRole request => request.toCaller
  | .setLogItem request | .assignPrincipalToRbacRole request
  | .removePrincipalFromRbacRole request => request.toCaller
  | .addRbacRole request | .updateRbacRole request => request.toCaller

/-- The handler of the endpoint, its response aside. -/
def handle (host : Host) : Call → Handler Unit
  | .getLogItem request => (fun _ => ()) <$> getLogItem host request
  | .setLogItem request => (fun _ => ()) <$> setLogItem host request
  | .getRbacRole request => (fun _ => ()) <$> getRbacRole request
  | .addRbacRole request => (fun _ => ()) <$> addRbacRole request
  | .removeRbacRole request => (fun _ => ()) <$> removeRbacRole request
  | .updateRbacRole request => (fun _ => ()) <$> updateRbacRole request
  | .assignPrincipalToRbacRole request => (fun _ => ()) <$> assignPrincipalToRbacRole request
  | .removePrincipalFromRbacRole request =>
    (fun _ => ()) <$> removePrincipalFromRbacRole request
  | .isInRbacRole request => (fun _ => ()) <$> isInRbacRole request

/-- The tables of governance, those of the package among them, and the application's. -/
structure State where
  tables : Constitution.State
  log : Log

/-- A new network. -/
def State.empty : State := ⟨Constitution.State.empty, ∅⟩

/-- The tables the application can reach. -/
def State.open (s : State) : Tables := ⟨s.tables.store, s.log⟩

/-- The state with other tables of the application. -/
def State.close (t : Tables) (s : State) : State :=
  { tables := { s.tables with store := t.store }, log := t.log }

/-- An event of the network. -/
inductive Event where
  | enact (e : Constitution.Enactment)
  | call (c : Call)

/-- The state after the transaction of an event. -/
def take (host : Host) (s : State) : Event → State
  | .enact e => { s with tables := Constitution.step s.tables e }
  | .call c => State.close ((handle host c).commit s.open) s

/-! ### What the events are to the package -/

/-- The role and the principal that a body names. -/
def bodyKeys (request : Request Json) : Option (Text × Text) := do
  let requestBody ← request.json.toOption
  let roleId ← (← (stringOf requestBody "roleId").toOption)
  let principalId ← (← (stringOf requestBody "principalId").toOption)
  return (roleId, principalId)

/-- The call of the package that a request makes, if it makes one that can write. -/
def rbacCall : Call → Option RbacCall
  | .addRbacRole request => request.json.toOption.map .addRole
  | .removeRbacRole request => (queryValue request.query).map .removeRole
  | .updateRbacRole request => request.json.toOption.map .updateRole
  | .assignPrincipalToRbacRole request =>
    (bodyKeys request).map fun keys => .assignPrincipalToRole keys.1 keys.2
  | .removePrincipalFromRbacRole request =>
    (bodyKeys request).map fun keys => .removePrincipalFromRole keys.1 keys.2
  | .getLogItem _ | .setLogItem _ | .getRbacRole _ | .isInRbacRole _ => none

/-- What is kept of the item that a request posts, under its key. -/
def posted (host : Host) : Call → Option (UInt32 × Json)
  | .setLogItem request => do
    let item ← request.json.toOption
    let key ← (host.key request.query).toOption
    return (key, item.stored)
  | _ => none

/-- The event of the package's tables that an event of the network is. -/
def rbacEvent : Event → Option CcfIdentity.Event
  | .enact e =>
    match Constitution.validate e with
    | .ok (.package action) => some (.governance action)
    | _ => none
  | .call c => (rbacCall c).map .rbac

/-! ### What the handlers leave -/

theorem readOnly_getLogItem (host : Host) (request : Request Unit) :
    Program.ReadOnly (getLogItem host request) := by
  refine Program.readOnly_bind (Program.readOnly_read _) fun t =>
    Program.readOnly_bind (Program.readOnly_check _) fun access => ?_
  exact Program.readOnly_ite (Program.readOnly_pure _)
    (Program.readOnly_bind (Program.readOnly_check _) fun key => Program.readOnly_pure _)

theorem readOnly_getRbacRole (request : Request Unit) :
    Program.ReadOnly (getRbacRole request) :=
  Program.readOnly_bind (Program.readOnly_check _) fun _ =>
    Program.readOnly_bind (Program.readOnly_read _) fun _ => Program.readOnly_pure _

theorem readOnly_principalKey (roleId : Text) (principalId : Option Text) :
    Program.ReadOnly (principalKey roleId principalId) := by
  refine Program.readOnly_bind (Program.readOnly_read _) fun t => ?_
  cases principalId with
  | some principalId => exact Program.readOnly_pure _
  | none => exact Program.readOnly_ite (Program.readOnly_throw _) (Program.readOnly_pure _)

theorem readOnly_isInRbacRole (request : Request Unit) :
    Program.ReadOnly (isInRbacRole request) :=
  Program.readOnly_bind (Program.readOnly_check _) fun roleId =>
    Program.readOnly_bind (readOnly_principalKey roleId _) fun _ =>
      Program.readOnly_bind (Program.readOnly_read _) fun _ => Program.readOnly_pure _

/-- A transaction around a call of the package leaves what the call leaves. -/
theorem commit_call (c : RbacCall) (t : Tables) :
    (do
      let result ← call fun s => perform s c
      return Response.of result : Handler (Response IdentityResponse)).commit t =
      { t with store := (perform t.store c).2 } := by
  have hcall : (call fun s => perform s c) t =
      (lift (perform t.store c).1, { t with store := (perform t.store c).2 }) := rfl
  rw [Program.commit, Program.bind_apply, hcall]
  cases hresult : (perform t.store c).1 with
  | ok result => rfl
  | error failure =>
    have hkept : (perform t.store c).2 = t.store := by
      rcases perform_outcome t.store c with ⟨message, -, hok⟩ | hkept
      · rw [hresult] at hok
        cases hok
      · exact hkept
    rw [hkept]
    rfl

/-- A transaction around a call with the keys of a body leaves what the call leaves, if the
call does nothing where the role does not exist. -/
theorem commit_withKeys (request : Request Json) {c : Text → Text → RbacCall}
    (habsent : ∀ s r p, ¬ roleExists s r → (perform s (c r p)).2 = s) (t : Tables) :
    (withKeys request fun r p s => perform s (c r p)).commit t = { t with
      store := (bodyKeys request).elim t.store fun keys =>
        (perform t.store (c keys.1 keys.2)).2 } := by
  rw [withKeys, Program.commit_check_bind, toOption_lift, bodyKeys]
  cases request.json.toOption with
  | none => rfl
  | some requestBody =>
    simp only [Option.elim_some, Program.commit_check_bind, Option.bind_eq_bind, Option.bind_some]
    cases hrole : stringOf requestBody "roleId" with
    | error e => rfl
    | ok roleId =>
      cases roleId with
      | none => rfl
      | some roleId =>
        cases hprincipal : stringOf requestBody "principalId" with
        | error e => rfl
        | ok principalId =>
          cases principalId with
          | some principalId => exact commit_call (c roleId principalId) t
          | none =>
            have hkey : principalKey roleId none t =
                if roleExists t.store roleId then (.error (.failure .typeError), t)
                else (.ok [], t) := by
              rw [principalKey, Program.read_bind]
              exact Program.ite_apply _ _ _ _
            by_cases hexists : roleExists t.store roleId
            · rw [if_pos hexists] at hkey
              exact Program.commit_bind_of_error hkey _
            · rw [if_neg hexists] at hkey
              have hcall := commit_call (c roleId []) t
              rw [habsent _ _ _ hexists] at hcall
              exact (Program.commit_bind_of_ok hkey _).trans hcall

/-- What a request leaves of the tables. -/
def leaves (host : Host) (c : Call) (t : Tables) : Tables where
  store := (rbacCall c).elim t.store fun call => (perform t.store call).2
  log := (posted host c).elim t.log fun item => t.log.insert item.1 item.2

theorem commit_handle (host : Host) (c : Call) (t : Tables) :
    (handle host c).commit t = leaves host c t := by
  cases c with
  | getLogItem request =>
    rw [handle, Program.commit_map, Program.commit_readOnly (readOnly_getLogItem host request)]
    rfl
  | setLogItem request =>
    rw [handle, Program.commit_map, setLogItem, Program.commit_check_bind, toOption_lift]
    simp only [leaves, rbacCall, posted]
    cases request.json.toOption with
    | none => rfl
    | some item =>
      rw [Option.elim_some, Program.commit_check_bind]
      cases (host.key request.query).toOption <;> rfl
  | getRbacRole request =>
    rw [handle, Program.commit_map, Program.commit_readOnly (readOnly_getRbacRole request)]
    rfl
  | addRbacRole request =>
    rw [handle, Program.commit_map, addRbacRole, Program.commit_check_bind, toOption_lift]
    simp only [leaves, rbacCall, posted]
    cases request.json.toOption with
    | none => rfl
    | some role => exact commit_call (.addRole role) t
  | removeRbacRole request =>
    rw [handle, Program.commit_map, removeRbacRole, Program.commit_check_bind]
    simp only [leaves, rbacCall, posted]
    cases queryValue request.query with
    | none => rfl
    | some roleId => exact commit_call (.removeRole roleId) t
  | updateRbacRole request =>
    rw [handle, Program.commit_map, updateRbacRole, Program.commit_check_bind, toOption_lift]
    simp only [leaves, rbacCall, posted]
    cases request.json.toOption with
    | none => rfl
    | some role => exact commit_call (.updateRole role) t
  | assignPrincipalToRbacRole request =>
    rw [handle, Program.commit_map]
    refine (commit_withKeys request (c := .assignPrincipalToRole) ?_ t).trans ?_
    · intro s r p habsent
      rw [perform, assignPrincipalToRole_store, grant, if_neg fun h => habsent h.1]
    · simp only [leaves, rbacCall, posted]
      cases bodyKeys request <;> rfl
  | removePrincipalFromRbacRole request =>
    rw [handle, Program.commit_map]
    refine (commit_withKeys request (c := .removePrincipalFromRole) ?_ t).trans ?_
    · intro s r p habsent
      rw [perform, removePrincipalFromRole_store, if_neg fun h => habsent h.1]
    · simp only [leaves, rbacCall, posted]
      cases bodyKeys request <;> rfl
  | isInRbacRole request =>
    rw [handle, Program.commit_map, Program.commit_readOnly (readOnly_isInRbacRole request)]
    rfl

/-- A request to an endpoint that is to read only changes nothing. -/
theorem take_readonly (host : Host) (s : State) {c : Call} (h : c.route.mode = "readonly") :
    take host s (.call c) = s := by
  rw [take, commit_handle]
  cases c with
  | getLogItem | getRbacRole | isInRbacRole => rfl
  | _ => exact absurd h (by simp [Call.route])

/-! ### Runs -/

/-- The proposed action that an event enacts, unless it is one on the package's tables. -/
def enacted : Event → Option Constitution.Enactment
  | .enact e =>
    match Constitution.validate e with
    | .ok (.package _) => none
    | _ => some e
  | .call _ => none

/-- The item that an event posts. -/
def post (host : Host) : Event → Option (UInt32 × Json)
  | .enact _ => none
  | .call c => posted host c

/-- The log with one more item. -/
def logItem (log : Log) (item : UInt32 × Json) : Log := log.insert item.1 item.2

/-- What an enacted action leaves of the package's tables. -/
theorem store_enact (g : Constitution.State) (e : Constitution.Enactment) :
    (Constitution.step g e).store =
      (rbacEvent (.enact e)).elim g.store (CcfIdentity.step g.store) := by
  rw [rbacEvent]
  cases hvalid : Constitution.validate e with
  | error fault => rw [Constitution.step_refused hvalid]; rfl
  | ok action =>
    cases action with
    | package action => rw [Constitution.step_returns hvalid rfl]; rfl
    | _ =>
      have hframe : Constitution.Same g (Constitution.step g e) .store := by
        refine Constitution.step_frame g fun action haction => ?_
        cases hvalid.symm.trans haction
        simp [Constitution.Action.writes]
      exact hframe

/-- What an event leaves of the package's tables. -/
theorem store_take (host : Host) (s : State) (e : Event) :
    (take host s e).tables.store =
      (rbacEvent e).elim s.tables.store (CcfIdentity.step s.tables.store) := by
  cases e with
  | enact e => exact store_enact s.tables e
  | call c =>
    rw [take, commit_handle, rbacEvent, Option.elim_map]
    rfl

/-- What an event leaves of the other tables of governance, whatever the package's hold. -/
theorem governance_take (host : Host) (store : Store) (s : State) (e : Event) :
    { (take host s e).tables with store } =
      (enacted e).elim { s.tables with store } (Constitution.step { s.tables with store }) := by
  cases e with
  | call c => rw [take, commit_handle]; rfl
  | enact e =>
    rw [enacted]
    cases hvalid : Constitution.validate e with
    | error fault =>
      rw [Option.elim_some, take, Constitution.step_refused hvalid,
        Constitution.step_refused hvalid]
    | ok action =>
      cases action with
      | package action => rw [take, Constitution.step_returns hvalid rfl]; rfl
      | _ =>
        rw [Option.elim_some, Constitution.step_store]
        · rfl
        · intro action haction
          cases hvalid.symm.trans haction
          simp [Constitution.Action.writes]

/-- What an event leaves of the log. -/
theorem log_take (host : Host) (s : State) (e : Event) :
    (take host s e).log = (post host e).elim s.log (logItem s.log) := by
  cases e with
  | enact e => rfl
  | call c => rw [take, commit_handle]; rfl

/-- A run of transactions is three runs side by side: of the package's operations, of the
actions on the other tables of governance, and of the posts. -/
theorem run_take (host : Host) (s : State) (es : List Event) :
    Runs.run (take host) s es =
      { tables := { Runs.run Constitution.step s.tables (es.filterMap enacted) with
          store := Runs.run CcfIdentity.step s.tables.store (es.filterMap rbacEvent) }
        log := Runs.run logItem s.log (es.filterMap (post host)) } := by
  have hstore := Refinement.run_view (fun s : State => s.tables.store) rbacEvent
    (store_take host) s es
  have hgovernance := Refinement.run_view
    (fun t : State => { t.tables with store := s.tables.store }) enacted
    (governance_take host s.tables.store) s es
  have hlog := Refinement.run_view (fun s : State => s.log) (post host) (log_take host) s es
  rw [← hlog, ← hstore, ← hgovernance]

end CcfIdentity.Logapp
