import CcfIdentity.Constitution.Configuration

/-!
# Certificates generated along a run

The service endorses certificates for itself and for its nodes in four actions. A proposal
may ask for a period, and asks in vain for one longer than the configuration allows; since
no proposal writes these limits, they hold of every certificate a run asks the node to
generate. An action that throws in the end has asked for what it asked for before.
-/

open Utf16

namespace CcfIdentity.Constitution

/-- A period that is allowed is not too long, and it is a day at least where the longest one
is. -/
theorem allowedPeriod_ok {validity : Validity} {max_allowed days : Int} {unit max : String}
    (h : allowedPeriod validity max_allowed unit max = .ok days) :
    days ≤ max_allowed ∧ (1 ≤ max_allowed → 1 ≤ days) := by
  obtain ⟨u, hfits, hdays⟩ := Program.except_bind_eq_ok.mp h
  cases hdays
  refine ⟨not_lt.mp (refuseIf_eq_ok.mp hfits), fun hmax => ?_⟩
  cases validity.validity_period_days with
  | none => exact hmax
  | some period => exact period.property.1 1 rfl

/-- The call generates no certificate for longer than the configuration allows. -/
def Call.Allowed (config : Option ServiceConfig) : Call → Prop
  | .generateNetworkCertificate _ days => ∃ c, config = some c ∧
      days ≤ maximumServiceValidity c ∧ (1 ≤ maximumServiceValidity c → 1 ≤ days)
  | .generateEndorsedCertificate _ _ days => ∃ c, config = some c ∧
      days ≤ maximumNodeValidity c ∧ (1 ≤ maximumNodeValidity c → 1 ≤ days)
  | _ => True

/-- The calls generate no certificate for longer than the configuration allows. -/
def AllAllowed (config : Option ServiceConfig) (calls : List Call) : Prop :=
  ∀ call ∈ calls, call.Allowed config

theorem AllAllowed.append {config : Option ServiceConfig} {calls : List Call}
    (h : AllAllowed config calls) {call : Call} (hcall : call.Allowed config) :
    AllAllowed config (calls ++ [call]) := by
  intro other hother
  rcases List.mem_append.mp hother with hmem | hmem
  · exact h other hmem
  · rwa [List.mem_singleton.mp hmem]

theorem allAllowed_append {config : Option ServiceConfig} {calls more : List Call} :
    AllAllowed config (calls ++ more) ↔ AllAllowed config calls ∧ AllAllowed config more := by
  simp only [AllAllowed, List.mem_append, or_imp, forall_and]

/-! ### The programs -/

section Programs

variable (ccf : Ccf) {config : Option ServiceConfig}

private theorem allowed_endorse (c : ServiceConfig) (nodeId csr : Text) (validity : Validity)
    (unit max : String) :
    Program.Keeps (fun n => AllAllowed (some c) n.calls)
      (endorse ccf c nodeId csr validity unit max) := by
  refine Program.keeps_check_bind fun days hdays => ?_
  refine Program.keeps_write_bind (fun n hn => ?_) fun _ => ?_
  · exact hn.append ⟨c, rfl, allowedPeriod_ok hdays⟩
  · exact Program.keeps_check_bind fun cert _ => Program.keeps_write fun n hn => hn

private theorem allowed_renew (nodeId : Text) (nodeInfo : NodeInfo) (validity : Validity) :
    Program.Keeps (fun n => AllAllowed config n.calls)
      (setNodeCertificateValidityPeriod ccf config nodeId nodeInfo validity) :=
  keeps_setNodeCertificateValidityPeriod fun c csr hc _ =>
    hc ▸ allowed_endorse ccf c nodeId csr validity _ _

private theorem allowed_setNodeCertificateValidity (args : NodeValidity) :
    Program.Keeps (fun n => AllAllowed config n.calls)
      (setNodeCertificateValidity ccf config args) := by
  refine Program.keeps_bind (Program.keeps_read _) fun n => ?_
  cases n.info[args.node_id.val]? with
  | none => exact Program.keeps_throw _
  | some nodeInfo =>
    exact Program.keeps_check_bind fun _ _ => allowed_renew ccf _ nodeInfo args.validity

private theorem allowed_setNodeData (args : SetNodeData) :
    Program.Keeps (fun n => AllAllowed config n.calls) (setNodeData args) := by
  refine Program.keeps_bind (Program.keeps_read _) fun n => ?_
  cases n.info[args.node_id.val]? with
  | none => exact Program.keeps_throw _
  | some ni => exact Program.keeps_write fun _ hn => hn

private theorem allowed_removeNode (node_id : EntityId) :
    Program.Keeps (fun n => AllAllowed config n.calls) (removeNode config node_id) := by
  cases config with
  | none => exact Program.keeps_throw _
  | some c => exact Program.keeps_write fun n hn => by rwa [calls_dismiss]

private theorem allowed_updateServiceConfig (count : Except Fault Int)
    (new_config : NewConfig) :
    Program.Keeps (fun s => AllAllowed config s.calls)
      (updateServiceConfig ccf count new_config) := by
  refine Program.keeps_bind (Program.keeps_read _) fun s => ?_
  cases s.config with
  | none => exact Program.keeps_throw _
  | some c =>
    refine Program.keeps_check_bind fun type _ => Program.keeps_check_bind fun _ _ => ?_
    refine Program.keeps_write_bind (fun _ hs => hs) fun _ => ?_
    refine Program.keeps_ite ?_ (Program.keeps_pure ())
    exact Program.keeps_write_bind (fun _ hs => hs.append trivial)
      fun _ => Program.keeps_check _

private theorem allowed_transitionServiceToOpen (args : ServiceIdentities) :
    Program.Keeps (fun s => AllAllowed config s.calls) (transitionServiceToOpen ccf args) := by
  refine Program.keeps_bind (Program.keeps_read _) fun s => ?_
  cases s.info with
  | none => exact Program.keeps_throw _
  | some service =>
    refine Program.keeps_check_bind fun _ _ => Program.keeps_check_bind fun previous _ => ?_
    refine Program.keeps_write_bind (fun _ hs => hs.append trivial) fun _ => ?_
    exact Program.keeps_check_bind fun _ _ => Program.keeps_write fun _ hs => hs

-- The configuration that bounds the period is the one the program reads.
private theorem allowed_setServiceCertificateValidityPeriod (validity : Validity) {s : Service}
    (h : AllAllowed s.config s.calls) :
    AllAllowed s.config (setServiceCertificateValidityPeriod ccf validity s).2.calls := by
  rw [setServiceCertificateValidityPeriod, Program.read_bind, id_eq]
  cases hconfig : s.config with
  | none => rwa [hconfig] at h
  | some c =>
    rw [hconfig] at h
    refine Program.keeps_check_bind (I := fun s => AllAllowed (some c) s.calls)
      (fun days hdays => ?_) s h
    refine Program.keeps_write_bind (fun s hs => ?_) fun _ => ?_
    · exact hs.append ⟨c, rfl, allowedPeriod_ok hdays⟩
    · refine Program.keeps_check_bind fun cert _ => ?_
      cases s.info with
      | none => exact Program.keeps_throw _
      | some info => exact Program.keeps_write fun _ hs => hs

private theorem allowed_trigger {call : Call} (hcall : call.Allowed config) :
    Program.Keeps (fun s => AllAllowed config s.calls) (trigger ccf call) :=
  Program.keeps_write_bind (fun _ hs => hs.append hcall)
    fun _ => Program.keeps_check _

private theorem allowed_removeMember (member_id : EntityId) :
    Program.Keeps (fun m => AllAllowed config m.calls) (removeMember ccf config member_id) := by
  refine Program.keeps_bind (Program.keeps_read _) fun m => ?_
  cases m.info[member_id.val]? with
  | none => exact Program.keeps_pure ()
  | some info =>
    have hforget : Program.Keeps (fun m => AllAllowed config m.calls) (do
        Program.write (F := Fault) (Members.forget member_id.val)
        if info.status = .active ∧ m.encryption_public_keys.contains member_id.val = true then do
          .write fun m => { m with calls := m.calls ++ [.triggerLedgerRekey] }
          .check (ccf.answer .triggerLedgerRekey)) := by
      refine Program.keeps_write_bind (fun _ hm => hm) fun _ => ?_
      refine Program.keeps_ite ?_ (Program.keeps_pure ())
      exact Program.keeps_write_bind (fun _ hm => hm.append trivial)
        fun _ => Program.keeps_check _
    exact Program.keeps_ite (Program.keeps_check_bind fun _ _ => hforget) hforget

private theorem allowed_setMember (signature : Option Json) (args : SetMember) :
    Program.Keeps (fun m => AllAllowed config m.calls) (setMember ccf signature args) := by
  refine Program.keeps_check_bind fun _ _ => Program.keeps_check_bind fun _ _ => ?_
  refine Program.keeps_write_bind (fun _ hm => hm) fun _ => ?_
  refine Program.keeps_check_bind fun _ _ => ?_
  refine Program.keeps_write_bind (fun _ hm => hm) fun _ => ?_
  refine Program.keeps_write_bind (fun _ hm => hm) fun _ => ?_
  exact Program.keeps_check_bind fun _ _ => Program.keeps_write fun _ hm => hm

private theorem allowed_setMemberData (args : SetMemberData) :
    Program.Keeps (fun m => AllAllowed config m.calls) (setMemberData args) := by
  refine Program.keeps_bind (Program.keeps_read _) fun m => ?_
  cases m.info[args.member_id.val]? with
  | none => exact Program.keeps_throw _
  | some mi => exact Program.keeps_write fun _ hm => hm

private theorem allowed_setJsApp (args : SetJsApp) :
    Program.Keeps (fun a => AllAllowed config a.calls) (setJsApp ccf args) := by
  refine Program.keeps_write_bind (fun _ ha => ha) fun _ => ?_
  refine Program.keeps_bind (Program.keeps_forEach fun module _ =>
    Program.keeps_write fun _ ha => ha) fun _ => ?_
  refine Program.keeps_bind (Program.keeps_ite (Program.keeps_write fun _ ha => ha) ?_) fun _ => ?_
  · exact Program.keeps_write_bind (fun _ ha => ha.append trivial)
      fun _ => Program.keeps_check _
  · exact Program.keeps_forEach fun entry _ =>
      Program.keeps_check_bind fun _ _ => Program.keeps_write fun _ ha => ha

private theorem allowed_setJwtIssuer (args : SetJwtIssuer) :
    Program.Keeps (fun i => AllAllowed config i.calls) (setJwtIssuer ccf args) := by
  refine Program.keeps_bind (Program.keeps_read _) fun i => Program.keeps_check_bind fun _ _ => ?_
  refine Program.keeps_bind ?_ fun _ =>
    Program.keeps_check_bind fun _ _ => Program.keeps_write fun _ hi => hi
  rw [giveKeys.eq_def]
  cases args.members.lookup (text "jwks") with
  | none => exact Program.keeps_pure ()
  | some keys =>
    refine Program.keeps_ite ?_ (Program.keeps_pure ())
    exact Program.keeps_write_bind (fun _ hi => hi.append trivial)
      fun _ => Program.keeps_check _

private theorem allowed_setJwtPublicSigningKeys (args : SetJwtKeys) :
    Program.Keeps (fun i => AllAllowed config i.calls) (setJwtPublicSigningKeys ccf args) := by
  refine Program.keeps_bind (Program.keeps_read _) fun i => ?_
  cases i.issuers[args.issuer]? with
  | none => exact Program.keeps_throw _
  | some metadata =>
    exact Program.keeps_write_bind (fun _ hi => hi.append trivial)
      fun _ => Program.keeps_check _

private theorem allowed_removeJwtIssuer (issuer : Text) :
    Program.Keeps (fun i => AllAllowed config i.calls) (removeJwtIssuer ccf issuer) := by
  refine Program.keeps_bind (Program.keeps_read _) fun i => ?_
  refine Program.keeps_ite ?_ (Program.keeps_pure ())
  refine Program.keeps_write_bind (fun _ hi => hi) fun _ => ?_
  exact Program.keeps_write_bind (fun _ hi => hi.append trivial)
    fun _ => Program.keeps_check _

end Programs

/-! ### What an action asks for -/

/-- The calls recorded with the parts of the tables. -/
def State.calls (g : State) : List Call :=
  g.members.calls ++ (g.service.calls ++ (g.app.calls ++ (g.issuers.calls ++ g.nodes.calls)))

/-- The same tables before any call. -/
def State.uncalled (g : State) : State :=
  { g with
    members := { g.members with calls := [] }
    service := { g.service with calls := [] }
    app := { g.app with calls := [] }
    issuers := { g.issuers with calls := [] }
    nodes := { g.nodes with calls := [] } }

/-- The calls that a proposed action makes, whether it returns or throws in the end. A call is
made before the node answers it. -/
def made (g : State) (e : Enactment) : List Call := (enact e g.uncalled).2.calls

/-- The calls made along a run. -/
def madeAlong : State → List Enactment → List Call
  | _, [] => []
  | g, e :: es => made g e ++ madeAlong (step g e) es

section Apply

variable {config : Option ServiceConfig} {g : State}

private theorem allowed_onMembers {m : Program Fault Members Unit}
    (h : AllAllowed config g.calls) (hm : Program.Keeps (fun t => AllAllowed config t.calls) m) :
    AllAllowed config (onMembers m g).2.calls := by
  simp only [State.calls, allAllowed_append] at h ⊢
  exact ⟨hm _ h.1, h.2⟩

private theorem allowed_onService {m : Program Fault Service Unit}
    (h : AllAllowed config g.calls)
    (hm : AllAllowed config g.service.calls → AllAllowed config (m g.service).2.calls) :
    AllAllowed config (onService m g).2.calls := by
  simp only [State.calls, allAllowed_append] at h ⊢
  exact ⟨h.1, hm h.2.1, h.2.2⟩

private theorem allowed_onApp {m : Program Fault App Unit}
    (h : AllAllowed config g.calls) (hm : Program.Keeps (fun t => AllAllowed config t.calls) m) :
    AllAllowed config (onApp m g).2.calls := by
  simp only [State.calls, allAllowed_append] at h ⊢
  exact ⟨h.1, h.2.1, hm _ h.2.2.1, h.2.2.2⟩

private theorem allowed_onIssuers {m : Program Fault Issuers Unit}
    (h : AllAllowed config g.calls) (hm : Program.Keeps (fun t => AllAllowed config t.calls) m) :
    AllAllowed config (onIssuers m g).2.calls := by
  simp only [State.calls, allAllowed_append] at h ⊢
  exact ⟨h.1, h.2.1, h.2.2.1, hm _ h.2.2.2.1, h.2.2.2.2⟩

private theorem allowed_onNodes {m : Program Fault Nodes Unit}
    (h : AllAllowed config g.calls)
    (hm : AllAllowed config g.nodes.calls → AllAllowed config (m g.nodes).2.calls) :
    AllAllowed config (onNodes m g).2.calls := by
  simp only [State.calls, allAllowed_append] at h ⊢
  exact ⟨h.1, h.2.1, h.2.2.1, h.2.2.2.1, hm h.2.2.2.2⟩

end Apply

/-- Every action asks for allowed certificates only, also where it throws. -/
theorem allowed_apply (ccf : Ccf) (proposalId : Text) (action : Action) {g : State}
    (h : AllAllowed g.service.config g.calls) :
    AllAllowed g.service.config (apply ccf proposalId g action g).2.calls := by
  cases action with
  | set_constitution | set_user | remove_user | set_user_data | package => exact h
  | set_member args => exact allowed_onMembers h (allowed_setMember ccf g.signature args)
  | remove_member id => exact allowed_onMembers h (allowed_removeMember ccf id)
  | set_member_data args => exact allowed_onMembers h (allowed_setMemberData args)
  | set_recovery_threshold new_config | set_service_configuration new_config =>
    exact allowed_onService h (allowed_updateServiceConfig ccf _ new_config _)
  | trigger_recovery_shares_refresh | trigger_ledger_rekey | trigger_ledger_chunk
  | trigger_snapshot => exact allowed_onService h (allowed_trigger ccf (by trivial) _)
  | transition_service_to_open args =>
    exact allowed_onService h (allowed_transitionServiceToOpen ccf args _)
  | set_service_certificate_validity validity =>
    exact allowed_onService h (allowed_setServiceCertificateValidityPeriod ccf validity)
  | set_js_app args => exact allowed_onApp h (allowed_setJsApp ccf args)
  | remove_js_app => exact h
  | refresh_js_app_bytecode_cache =>
    exact allowed_onApp h (Program.keeps_bind
      (Program.keeps_write fun _ ha => ha.append trivial) fun _ => Program.keeps_check _)
  | set_ca_cert_bundle args =>
    exact allowed_onIssuers h (Program.keeps_check_bind fun _ _ =>
      Program.keeps_write fun _ hi => hi)
  | remove_ca_cert_bundle name => exact h
  | set_jwt_issuer args => exact allowed_onIssuers h (allowed_setJwtIssuer ccf args)
  | set_jwt_public_signing_keys args =>
    exact allowed_onIssuers h (allowed_setJwtPublicSigningKeys ccf args)
  | remove_jwt_issuer issuer => exact allowed_onIssuers h (allowed_removeJwtIssuer ccf issuer)
  | add_node_code code_id => exact h
  | set_node_data args => exact allowed_onNodes h (allowed_setNodeData args _)
  | transition_node_to_trusted args =>
    exact allowed_onNodes h (keeps_transitionNodeToTrusted (fun _ _ hn => hn)
      (fun c _ csr hc _ _ => hc ▸ allowed_endorse ccf c _ csr args.validity _ _))
  | remove_node_code code_id => exact h
  | remove_node node_id => exact allowed_onNodes h (allowed_removeNode node_id _)
  | set_node_certificate_validity args =>
    exact allowed_onNodes h (allowed_setNodeCertificateValidity ccf args _)
  | set_all_nodes_certificate_validity validity =>
    exact allowed_onNodes h (keeps_setAllNodesCertificateValidity
      fun nodeId nodeInfo _ _ => allowed_renew ccf nodeId nodeInfo validity)

/-- A proposed action asks for allowed certificates only. -/
theorem allowed_made (g : State) (e : Enactment) : AllAllowed g.service.config (made g e) := by
  have hnone : AllAllowed g.uncalled.service.config g.uncalled.calls := fun _ hcall => by
    cases hcall
  rw [made, enact, Program.bind_apply, Program.check_apply]
  cases validate e with
  | error fault => exact hnone
  | ok action => exact allowed_apply e.ccf e.proposalId action hnone

/-! ### Runs -/

/-- What a configuration allows later it allowed before. -/
theorem allowed_of_becomes {s s' : Service} (h : s.Becomes s') {call : Call}
    (hcall : call.Allowed s'.config) : call.Allowed s.config := by
  have hback : ∀ c', s'.config = some c' → ∃ c, s.config = some c ∧
      maximumServiceValidity c = maximumServiceValidity c' ∧
      maximumNodeValidity c = maximumNodeValidity c' := by
    intro c' hc'
    cases hc : s.config with
    | none => rw [h.absent.mpr hc] at hc'; cases hc'
    | some c =>
      have hconfig := h.config c c' hc hc'
      exact ⟨c, rfl, by rw [maximumServiceValidity, maximumServiceValidity, hconfig.service_days],
        by rw [maximumNodeValidity, maximumNodeValidity, hconfig.node_days]⟩
  cases call with
  | generateNetworkCertificate valid_from days =>
    obtain ⟨c', hc', hbounds⟩ := hcall
    obtain ⟨c, hc, hservice, -⟩ := hback c' hc'
    exact ⟨c, hc, by rwa [hservice]⟩
  | generateEndorsedCertificate csr valid_from days =>
    obtain ⟨c', hc', hbounds⟩ := hcall
    obtain ⟨c, hc, -, hnode⟩ := hback c' hc'
    exact ⟨c, hc, by rwa [hnode]⟩
  | _ => trivial

/-- Every certificate that the proposed actions of a run ask the node to generate, for the
service or for a node, is for no longer than the configuration allows at the start of the
run. -/
theorem certificates_run (g : State) (es : List Enactment) :
    AllAllowed g.service.config (madeAlong g es) := by
  induction es generalizing g with
  | nil => exact fun _ hcall => by cases hcall
  | cons e es ih =>
    intro call hcall
    rcases List.mem_append.mp hcall with hmade | hlater
    · exact allowed_made g e call hmade
    · exact allowed_of_becomes (becomes_step g e) (ih (step g e) call hlater)

end CcfIdentity.Constitution
