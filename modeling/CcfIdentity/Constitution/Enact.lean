import CcfIdentity.Constitution.Members
import CcfIdentity.Constitution.Identities
import CcfIdentity.Constitution.Nodes
import CcfIdentity.Constitution.Issuers
import CcfIdentity.Constitution.Proposals
import CcfIdentity.Network.Steps

/-!
# Enacted proposals

The table of actions, `samples/logapp/constitution/actions.js:321–1261`. A proposed action is
checked by its `validate`; what it leaves of the arguments is an `Action`, on which `apply`
runs. The node takes an accepted action as a transaction, so that one that throws leaves
the tables it found.
-/

open Utf16

namespace CcfIdentity.Constitution

/-- An action with checked arguments, in the order of the source. -/
inductive Action where
  | set_constitution (constitution : Text)
  | set_member (args : SetMember)
  | remove_member (member_id : EntityId)
  | set_member_data (args : SetMemberData)
  | set_user (args : SetUser)
  | remove_user (user_id : EntityId)
  | set_user_data (args : SetUserData)
  | set_recovery_threshold (new_config : NewConfig)
  | trigger_recovery_shares_refresh
  | trigger_ledger_rekey
  | transition_service_to_open (args : ServiceIdentities)
  | set_js_app (args : SetJsApp)
  | remove_js_app
  | refresh_js_app_bytecode_cache
  | set_ca_cert_bundle (args : SetCaCertBundle)
  | remove_ca_cert_bundle (name : Text)
  | set_jwt_issuer (args : SetJwtIssuer)
  | set_jwt_public_signing_keys (args : SetJwtKeys)
  | remove_jwt_issuer (issuer : Text)
  | add_node_code (code_id : Text)
  | set_node_data (args : SetNodeData)
  | transition_node_to_trusted (args : NodeValidity)
  | remove_node_code (code_id : Text)
  | remove_node (node_id : EntityId)
  | set_node_certificate_validity (args : NodeValidity)
  | set_all_nodes_certificate_validity (validity : Validity)
  | set_service_certificate_validity (validity : Validity)
  | set_service_configuration (new_config : NewConfig)
  | trigger_ledger_chunk
  | trigger_snapshot
  | package (action : GovernanceAction)

/-- The `validate` functions by the names of their actions. -/
def validators (ccf : Ccf) (args : Option Json) : List (String × Except Fault Action) :=
  [("set_constitution", .set_constitution <$> validateSetConstitution args),
    ("set_member", .set_member <$> validateSetMember ccf args),
    ("remove_member", .remove_member <$> validateRemoveMember args),
    ("set_member_data", .set_member_data <$> validateSetMemberData args),
    ("set_user", .set_user <$> validateSetUser ccf args),
    ("remove_user", .remove_user <$> validateRemoveUser args),
    ("set_user_data", .set_user_data <$> validateSetUserData args),
    ("set_recovery_threshold", .set_recovery_threshold <$> validateSetRecoveryThreshold args),
    ("trigger_recovery_shares_refresh",
      (fun _ => .trigger_recovery_shares_refresh) <$> checkNone args),
    ("trigger_ledger_rekey", (fun _ => .trigger_ledger_rekey) <$> checkNone args),
    ("transition_service_to_open",
      .transition_service_to_open <$> validateTransitionServiceToOpen ccf args),
    ("set_js_app", .set_js_app <$> validateSetJsApp args),
    ("remove_js_app", .ok .remove_js_app),
    ("refresh_js_app_bytecode_cache", .ok .refresh_js_app_bytecode_cache),
    ("set_ca_cert_bundle", .set_ca_cert_bundle <$> validateSetCaCertBundle ccf args),
    ("remove_ca_cert_bundle", .remove_ca_cert_bundle <$> validateRemoveCaCertBundle args),
    ("set_jwt_issuer", .set_jwt_issuer <$> validateSetJwtIssuer ccf args),
    ("set_jwt_public_signing_keys",
      .set_jwt_public_signing_keys <$> validateSetJwtPublicSigningKeys ccf args),
    ("remove_jwt_issuer", .remove_jwt_issuer <$> validateRemoveJwtIssuer args),
    ("add_node_code", .add_node_code <$> validateCodeId args),
    ("set_node_data", .set_node_data <$> validateSetNodeData args),
    ("transition_node_to_trusted", .transition_node_to_trusted <$> validateNodeValidity args),
    ("remove_node_code", .remove_node_code <$> validateCodeId args),
    ("remove_node", .remove_node <$> validateRemoveNode args),
    ("set_node_certificate_validity",
      .set_node_certificate_validity <$> validateNodeValidity args),
    ("set_all_nodes_certificate_validity",
      .set_all_nodes_certificate_validity <$> validateValidity args),
    ("set_service_certificate_validity",
      .set_service_certificate_validity <$> validateValidity args),
    ("set_service_configuration",
      .set_service_configuration <$> validateSetServiceConfiguration args),
    ("trigger_ledger_chunk", .ok .trigger_ledger_chunk),
    ("trigger_snapshot", .ok .trigger_snapshot),
    ("set_service_principal",
      (fun m => .package (.setServicePrincipal m.1 m.2)) <$> validateIdAndName args),
    ("remove_service_principal",
      (fun id => .package (.removeServicePrincipal id)) <$> validateId args),
    ("set_group_id", (fun m => .package (.setGroupId m.1 m.2)) <$> validateIdAndName args),
    ("remove_group_id", (fun id => .package (.removeGroupId id)) <$> validateId args)]

section Parts

variable {α : Type}

def onProposals : Program Fault Proposals α → Program Fault State α :=
  .on State.proposals fun p g => { g with proposals := p }

def onMembers : Program Fault Members α → Program Fault State α :=
  .on State.members fun m g => { g with members := m }

def onUsers : Program Fault Users α → Program Fault State α :=
  .on State.users fun u g => { g with users := u }

def onService : Program Fault Service α → Program Fault State α :=
  .on State.service fun s g => { g with service := s }

def onApp : Program Fault App α → Program Fault State α :=
  .on State.app fun a g => { g with app := a }

def onIssuers : Program Fault Issuers α → Program Fault State α :=
  .on State.issuers fun i g => { g with issuers := i }

def onNodes : Program Fault Nodes α → Program Fault State α :=
  .on State.nodes fun n g => { g with nodes := n }

/-! A program on one part returns where it does on that part alone. -/

variable {g g' : State} {a : α}

theorem onProposals_eq_ok {m : Program Fault Proposals α} :
    onProposals m g = (.ok a, g') ↔
      ∃ p, m g.proposals = (.ok a, p) ∧ { g with proposals := p } = g' :=
  Program.on_eq_ok

theorem onMembers_eq_ok {m : Program Fault Members α} :
    onMembers m g = (.ok a, g') ↔ ∃ t, m g.members = (.ok a, t) ∧ { g with members := t } = g' :=
  Program.on_eq_ok

theorem onUsers_eq_ok {m : Program Fault Users α} :
    onUsers m g = (.ok a, g') ↔ ∃ u, m g.users = (.ok a, u) ∧ { g with users := u } = g' :=
  Program.on_eq_ok

theorem onService_eq_ok {m : Program Fault Service α} :
    onService m g = (.ok a, g') ↔ ∃ s, m g.service = (.ok a, s) ∧ { g with service := s } = g' :=
  Program.on_eq_ok

theorem onApp_eq_ok {m : Program Fault App α} :
    onApp m g = (.ok a, g') ↔ ∃ p, m g.app = (.ok a, p) ∧ { g with app := p } = g' :=
  Program.on_eq_ok

theorem onIssuers_eq_ok {m : Program Fault Issuers α} :
    onIssuers m g = (.ok a, g') ↔ ∃ i, m g.issuers = (.ok a, i) ∧ { g with issuers := i } = g' :=
  Program.on_eq_ok

theorem onNodes_eq_ok {m : Program Fault Nodes α} :
    onNodes m g = (.ok a, g') ↔ ∃ n, m g.nodes = (.ok a, n) ∧ { g with nodes := n } = g' :=
  Program.on_eq_ok

end Parts

/-- The `apply` functions, given the tables of other parts they read. -/
def apply (ccf : Ccf) (proposalId : Text) (g : State) : Action → Program Fault State Unit
  | .set_constitution constitution => onProposals (setConstitution constitution proposalId)
  | .set_member args => onMembers (setMember ccf g.signature args)
  | .remove_member member_id => onMembers (removeMember ccf g.service.config member_id)
  | .set_member_data args => onMembers (setMemberData args)
  | .set_user args => onUsers (setUser ccf args)
  | .remove_user user_id => onUsers (removeUser user_id)
  | .set_user_data args => onUsers (setUserData ccf args)
  | .set_recovery_threshold new_config | .set_service_configuration new_config =>
    onService (updateServiceConfig ccf (getActiveRecoveryMembersCount g.members) new_config)
  | .trigger_recovery_shares_refresh => onService (trigger ccf .triggerRecoverySharesRefresh)
  | .trigger_ledger_rekey => onService (trigger ccf .triggerLedgerRekey)
  | .transition_service_to_open args => onService (transitionServiceToOpen ccf args)
  | .set_js_app args => onApp (setJsApp ccf args)
  | .remove_js_app => onApp removeJsApp
  | .refresh_js_app_bytecode_cache => onApp (refreshJsAppBytecodeCache ccf)
  | .set_ca_cert_bundle args => onIssuers (setCaCertBundle ccf args)
  | .remove_ca_cert_bundle name => onIssuers (removeCaCertBundle name)
  | .set_jwt_issuer args => onIssuers (setJwtIssuer ccf args)
  | .set_jwt_public_signing_keys args => onIssuers (setJwtPublicSigningKeys ccf args)
  | .remove_jwt_issuer issuer => onIssuers (removeJwtIssuer ccf issuer)
  | .add_node_code code_id => do
    onNodes (addNodeCode code_id)
    onProposals (invalidateOtherOpenProposals proposalId)
  | .set_node_data args => onNodes (setNodeData args)
  | .transition_node_to_trusted args =>
    onNodes (transitionNodeToTrusted ccf g.service.config args)
  | .remove_node_code code_id => onNodes (removeNodeCode code_id)
  | .remove_node node_id => onNodes (removeNode g.service.config node_id)
  | .set_node_certificate_validity args =>
    onNodes (setNodeCertificateValidity ccf g.service.config args)
  | .set_all_nodes_certificate_validity validity =>
    onNodes (setAllNodesCertificateValidity ccf g.service.config validity)
  | .set_service_certificate_validity validity =>
    onService (setServiceCertificateValidityPeriod ccf validity)
  | .trigger_ledger_chunk => onService (trigger ccf .triggerLedgerChunk)
  | .trigger_snapshot => onService (trigger ccf .triggerSnapshot)
  | .package action => .write fun g => { g with store := govern g.store action }

/-- A proposed action as the node enacts it. -/
structure Enactment where
  ccf : Ccf
  proposalId : Text
  name : Text
  args : Option Json

/-- What the arguments of a proposed action are checked to be. -/
def validate (e : Enactment) : Except Fault Action :=
  ((validators e.ccf e.args).find? fun v => text v.1 = e.name).elim (.error .typeError) Prod.snd

/-- Check a proposed action and run it. -/
def enact (e : Enactment) : Program Fault State Unit := do
  let action ← .check (validate e)
  let g ← .read id
  apply e.ccf e.proposalId g action

/-- The tables after an action. -/
def step (g : State) (e : Enactment) : State := (enact e).commit g

end CcfIdentity.Constitution
