import CcfIdentity.Logapp.System

/-!
# The sample network

Which requests the sample application answers. A node looks a request up in the table of
endpoints that the actions on the application leave, runs what it finds there for those whom
the policies of the endpoint let in, and refuses all others itself. A network that serves no
code but the sample's therefore runs as if it were given its actions and the requests served,
and what is served depends on the tables of governance alone.
-/

open Utf16

namespace CcfIdentity.Logapp

/-- What the network takes from its nodes: besides what the handlers take, the modules that the
sample is built to, whether a caller is let in under some policies, by the tables of governance
without those of the package, and what code other than the sample's leaves of the tables. -/
structure Node extends Host where
  dist : List Constitution.AppModule
  admits : Constitution.State → List Text → Caller → Bool
  other : Constitution.State → Call → Tables → Tables

/-- The key of an endpoint in the table. -/
def Route.key (route : Route) : Text := text route.method ++ text " " ++ text route.url

/-- A string in an entry of the table. -/
def stringAt (info : Json) (name : String) : Option Text :=
  match info.property (text name) with
  | some (.str s) => some s
  | _ => none

/-- The policies in an entry of the table. -/
def policies (info : Json) : List Text :=
  match info.property (text "authn_policies") with
  | some (.arr elements) => elements.filterMap fun
    | .str s => some s
    | _ => none
  | _ => []

/-- The entry leads to the function of the sample, in the mode of `app.json`. -/
def Route.Leads (route : Route) (info : Json) : Prop :=
  stringAt info "js_module" = some (Constitution.modulePath (text route.js_module)) ∧
    stringAt info "js_function" = some (text route.js_function) ∧
    stringAt info "mode" = some (text route.mode)

/-- The modules of the sample are deployed. -/
def Node.Built (node : Node) (a : Constitution.App) : Prop :=
  ∀ m ∈ node.dist, a.modules[Constitution.modulePath m.name]? = some m.source

/-- The entry leads to the sample's own code. -/
def Node.Own (node : Node) (a : Constitution.App) (route : Route) (info : Json) : Prop :=
  route.Leads info ∧ node.Built a

instance (node : Node) (a : Constitution.App) (route : Route) (info : Json) :
    Decidable (node.Own a route info) :=
  inferInstanceAs (Decidable ((_ ∧ _ ∧ _) ∧ ∀ m ∈ node.dist, _))

/-- The tables of governance without those of the package. -/
def State.governance (s : State) : Constitution.State := { s.tables with store := Store.empty }

/-- The network after an event. -/
def step (node : Node) (s : State) : Event → State
  | .enact e => take node.toHost s (.enact e)
  | .call c =>
    match s.tables.app.endpoints[c.route.key]? with
    | none => s
    | some info =>
      if node.Own s.tables.app c.route info then
        if node.admits s.governance (policies info) c.caller then
          take node.toHost s (.call c)
        else s
      else State.close (node.other s.governance c s.open) s

/-! ### Requests that are served -/

/-- What an event leaves of the tables of governance without those of the package. -/
def governed (g : Constitution.State) (e : Event) : Constitution.State :=
  (enacted e).elim g (Constitution.step g)

/-- The sample answers the event. -/
def serves (node : Node) (g : Constitution.State) : Event → Bool
  | .enact _ => true
  | .call c => g.app.endpoints[c.route.key]?.any fun info =>
      decide (node.Own g.app c.route info) && node.admits g (policies info) c.caller

/-- Nothing but the sample's own code answers the event. -/
def OwnCode (node : Node) (g : Constitution.State) : Event → Prop
  | .enact _ => True
  | .call c => ∀ info ∈ g.app.endpoints[c.route.key]?, node.Own g.app c.route info

instance (node : Node) (g : Constitution.State) : (e : Event) → Decidable (OwnCode node g e)
  | .enact _ => isTrue trivial
  | .call c => inferInstanceAs (Decidable (∀ info ∈ g.app.endpoints[c.route.key]?, _))

/-- No code but the sample's is served in the run. -/
def OnlySample (node : Node) (g : Constitution.State) (es : List Event) : Prop :=
  Runs.Guarded governed (OwnCode node) g es

instance decidableOnlySample (node : Node) :
    (g : Constitution.State) → (es : List Event) → Decidable (OnlySample node g es)
  | _, [] => isTrue Runs.guarded_nil
  | g, e :: es =>
    have := decidableOnlySample node (governed g e) es
    decidable_of_iff (OwnCode node g e ∧ OnlySample node (governed g e) es)
      Runs.guarded_cons.symm

/-- The actions of a run and the requests that are served in it. -/
def served (node : Node) (g : Constitution.State) (es : List Event) : List Event :=
  Refinement.admitted governed (serves node) g es

/-- Requests leave the tables of governance alone, and actions do not ask for the package's. -/
theorem governance_step (node : Node) (s : State) (e : Event) :
    (step node s e).governance = governed s.governance e := by
  cases e with
  | enact e => exact governance_take node.toHost Store.empty s (.enact e)
  | call c =>
    have htake : (take node.toHost s (.call c)).governance = s.governance :=
      governance_take node.toHost Store.empty s (.call c)
    rw [step]
    split
    · rfl
    · split
      · split
        · exact htake
        · rfl
      · rfl

theorem governance_run (node : Node) (s : State) (es : List Event) :
    (Runs.run (step node) s es).governance = Runs.run governed s.governance es := by
  have hview : (Runs.run (step node) s es).governance =
      Runs.run governed s.governance (es.filterMap some) :=
    Refinement.run_view State.governance some (governance_step node) s es
  rwa [List.filterMap_some] at hview

/-- Where nothing but the sample answers, an event is a transaction or is refused. -/
theorem step_eq_take {node : Node} {s : State} {e : Event} (h : OwnCode node s.governance e) :
    step node s e = if serves node s.governance e then take node.toHost s e else s := by
  cases e with
  | enact e => rfl
  | call c =>
    have happ : s.governance.app = s.tables.app := rfl
    rw [step, serves, happ]
    cases hfound : s.tables.app.endpoints[c.route.key]? with
    | none => rfl
    | some info =>
      have hown : node.Own s.tables.app c.route info := h info hfound
      simp [hown]

/-- A network that serves no code but the sample's runs the transactions of its actions and of
the requests it serves. -/
theorem run_eq_take {node : Node} {s : State} {es : List Event}
    (h : OnlySample node s.governance es) :
    Runs.run (step node) s es =
      Runs.run (take node.toHost) s (served node s.governance es) :=
  Refinement.run_admitted (governance_step node) (fun _ _ => step_eq_take) h

/-- Actions are always taken. -/
theorem filterMap_enacted_served (node : Node) (g : Constitution.State) (es : List Event) :
    (served node g es).filterMap enacted = es.filterMap enacted := by
  refine Refinement.filterMap_admitted (fun g e he => ?_) g es
  cases e with
  | enact e => rfl
  | call c => exact absurd rfl he

/-- A run of a network that serves no code but the sample's is three runs side by side: of the
package's operations, of the actions on the other tables of governance, and of the posts, each
in the order of the run. The second decides which requests are served, and there is no other
influence of one on another. -/
theorem network_run {node : Node} {s : State} {es : List Event}
    (h : OnlySample node s.governance es) :
    Runs.run (step node) s es =
      { tables := { Runs.run Constitution.step s.tables (es.filterMap enacted) with
          store := Runs.run CcfIdentity.step s.tables.store
            ((served node s.governance es).filterMap rbacEvent) }
        log := Runs.run logItem s.log
          ((served node s.governance es).filterMap (post node.toHost)) } := by
  rw [run_eq_take h, run_take, filterMap_enacted_served]

/-! A network that is given the endpoints of the log. -/

/-- An object with these members. -/
def objectOf (members : List (String × Json)) : Json :=
  .obj (members.map fun (name, v) => (text name, v))

/-- An endpoint of the log, `app.json:4–21`. -/
def logInfo (js_function mode : String) : Json :=
  objectOf [("js_module", .str (text "endpoints/log.js")), ("js_function", .str (text js_function)),
    ("forwarding_required", .str (text "always")), ("authn_policies", .arr [.str (text "jwt")]),
    ("mode", .str (text mode))]

/-- The action that deploys them. -/
def deployment : Constitution.Enactment where
  ccf := { Constitution.Ccf.accepting with
    toUpperCase := List.map fun c => if 0x61 ≤ c ∧ c ≤ 0x7A then c - 0x20 else c }
  proposalId := text "1"
  name := text "set_js_app"
  args := some (objectOf [("bundle", objectOf [
    ("modules", .arr [objectOf [("name", .str (text "endpoints/log.js")),
      ("module", .str (text "export"))]]),
    ("metadata", objectOf [("endpoints", objectOf [("/log", objectOf [
      ("get", logInfo "getLogItem" "readonly"),
      ("post", logInfo "setLogItem" "readwrite")])])])])])

/-- A node that lets in whoever sends a token. -/
def logNode : Node where
  jwt_decode _ := .ok { oid := some (text "p"), group_ids := none }
  uint32 := Option.map fun n => UInt32.ofNat n.toNat
  dist := [⟨text "endpoints/log.js", text "export"⟩]
  admits _ policies caller :=
    policies.any (fun policy => policy = text "jwt") &&
      caller.headers.contains (text "authorization")
  other _ _ t := t

/-- A request with a token about the item of a number. -/
def numbered {T : Type} (name : String) (digits : List (Fin 10)) (json : Except Failure T) :
    Request T where
  headers := (∅ : Table Text).insert (text "authorization") (text "Bearer t")
  path := text "/app/log"
  certificate := none
  query := numberQuery (text name) digits
  json := json

/-- An item with a message. -/
def hello : Json := objectOf [("msg", .str (text "hello"))]

/-- An item is posted before the endpoints are there. -/
def deployed : List Event :=
  [.call (.setLogItem (numbered "id" [7] (.ok .null))), .enact deployment]

/-- Another one is posted when they are there. -/
def postHello : Event := .call (.setLogItem (numbered "id" [7] (.ok hello)))

/-- The number is asked for with a leading zero. -/
def readSeven : Request Unit := numbered "n" [0, 7] (.error .syntaxError)

theorem onlySample_deployed :
    OnlySample logNode Constitution.State.empty (deployed ++ [postHello]) := by
  decide +kernel

theorem serves_postHello :
    serves logNode (Runs.run governed Constitution.State.empty deployed) postHello = true := by
  decide +kernel

/-- The second item is posted where it is served, the first is not. -/
theorem served_deployed : served logNode Constitution.State.empty (deployed ++ [postHello]) =
    [.enact deployment, postHello] := by
  have hearly : serves logNode Constitution.State.empty
      (.call (.setLogItem (numbered "id" [7] (.ok .null)))) = false := by decide +kernel
  have hdeployed : Refinement.admitted governed (serves logNode) Constitution.State.empty
      deployed = [.enact deployment] := by
    rw [deployed, Refinement.admitted, hearly]
    rfl
  rw [served, Refinement.admitted_append, hdeployed, Refinement.admitted, serves_postHello]
  rfl

theorem posts_deployed : (served logNode Constitution.State.empty
    (deployed ++ [postHello])).filterMap (post logNode.toHost) = [(7, hello)] := by
  rw [served_deployed]
  rfl

/-- The second item is in the log. -/
theorem deployed_network_run :
    (Runs.run (step logNode) State.empty (deployed ++ [postHello])).log =
      (∅ : Log).insert 7 hello := by
  have hstart : State.empty.governance = Constitution.State.empty := rfl
  rw [network_run (hstart ▸ onlySample_deployed), hstart, posts_deployed]
  rfl

end CcfIdentity.Logapp
