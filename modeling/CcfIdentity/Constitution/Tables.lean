import CcfIdentity.Constitution.Host
import CcfIdentity.Store.Tables

/-!
# The governance tables

The tables that the actions of `samples/logapp/constitution/actions.js` read and write,
grouped by the part of the service they describe, with the fields of their records that
some action reads or writes. A status the source has no word for is an `other`, and data of
others are what is read back of their JSON text. The calls an action has made of the node
are kept with the part it writes, the latest last.
-/

open Utf16

namespace CcfIdentity.Constitution

inductive MemberStatus where
  | accepted
  | active
  | other (name : Text)
deriving DecidableEq

/-- `public:ccf.gov.members.info`. -/
structure MemberInfo where
  member_data : Option Json
  status : MemberStatus

/-- `public:ccf.gov.members.*` and `public:ccf.gov.history`. An acknowledgement may have
been set without a value. -/
structure Members where
  certs : Table Text
  encryption_public_keys : Table Text
  info : Table MemberInfo
  acks : Table (Option Json)
  history : Table Json
  calls : List Call

/-- `public:ccf.gov.users.*`. -/
structure Users where
  certs : Table Text
  info : Table Json

/-- `public:ccf.gov.service.config`. -/
structure ServiceConfig where
  recovery_threshold : Int
  reconfiguration_type : Option Text
  consensus : Option Text
  maximum_service_certificate_validity_days : Option Int
  maximum_node_certificate_validity_days : Option Int

/-- `public:ccf.gov.service.*`; either table may have nothing under its only key. -/
structure Service where
  config : Option ServiceConfig
  info : Option ServiceInfo
  calls : List Call

inductive NodeStatus where
  | pending
  | learner
  | trusted
  | retiring
  | retired
  | other (name : Text)
deriving DecidableEq

/-- `public:ccf.gov.nodes.info`. -/
structure NodeInfo where
  status : NodeStatus
  certificate_signing_request : Option Text
  ledger_secret_seqno : Option Int
  node_data : Option Json

/-- `public:ccf.gov.nodes.*`. -/
structure Nodes where
  info : Table NodeInfo
  endorsed_certificates : Table Text
  code_ids : Table Json
  calls : List Call

/-- `public:ccf.gov.modules*` and `public:ccf.gov.endpoints`. -/
structure App where
  modules : Table Text
  modules_quickjs_bytecode : Table Text
  modules_quickjs_version : Table Text
  endpoints : Table Json
  calls : List Call

/-- `public:ccf.gov.tls.ca_cert_bundles` and `public:ccf.gov.jwt.issuers`. -/
structure Issuers where
  ca_cert_bundles : Table Json
  issuers : Table Json
  calls : List Call

inductive ProposalState where
  | opened
  | dropped
  | other (name : Text)
deriving DecidableEq

/-- `public:ccf.gov.constitution` and `public:ccf.gov.proposals_info`, of which the state
of each proposal is kept. -/
structure Proposals where
  constitution : Option Text
  proposals_info : Table ProposalState

/-- All tables: those of the package, those above, and the last signature. -/
structure State where
  store : Store
  proposals : Proposals
  members : Members
  users : Users
  service : Service
  app : App
  issuers : Issuers
  nodes : Nodes
  signature : Option Json

/-- The tables of a new network. -/
def State.empty : State where
  store := Store.empty
  proposals := ⟨none, ∅⟩
  members := ⟨∅, ∅, ∅, ∅, ∅, []⟩
  users := ⟨∅, ∅⟩
  service := ⟨none, none, []⟩
  app := ⟨∅, ∅, ∅, ∅, []⟩
  issuers := ⟨∅, ∅, []⟩
  nodes := ⟨∅, ∅, ∅, []⟩
  signature := none

end CcfIdentity.Constitution
