import CcfIdentity.Constitution.Enact

/-!
# Steps of the constitution

What an enacted action can do to the tables: nothing, where it is not accepted or throws,
or else what its `apply` does to the parts of the tables it writes.
-/

open Utf16

namespace CcfIdentity.Constitution

/-- The parts of the tables. -/
inductive Part where
  | store
  | proposals
  | members
  | users
  | service
  | app
  | issuers
  | nodes
deriving DecidableEq

/-- The parts an action writes. -/
def Action.writes : Action → List Part
  | set_constitution _ => [.proposals]
  | set_member _ | remove_member _ | set_member_data _ => [.members]
  | set_user _ | remove_user _ | set_user_data _ => [.users]
  | set_recovery_threshold _ | trigger_recovery_shares_refresh | trigger_ledger_rekey
  | transition_service_to_open _ | set_service_certificate_validity _
  | set_service_configuration _ | trigger_ledger_chunk | trigger_snapshot => [.service]
  | set_js_app _ | remove_js_app | refresh_js_app_bytecode_cache => [.app]
  | set_ca_cert_bundle _ | remove_ca_cert_bundle _ | set_jwt_issuer _
  | set_jwt_public_signing_keys _ | remove_jwt_issuer _ => [.issuers]
  | add_node_code _ => [.nodes, .proposals]
  | set_node_data _ | transition_node_to_trusted _ | remove_node_code _ | remove_node _
  | set_node_certificate_validity _ | set_all_nodes_certificate_validity _ => [.nodes]
  | package _ => [.store]

/-- Two states have the same tables in a part. -/
def Same (g g' : State) : Part → Prop
  | .store => g'.store = g.store
  | .proposals => g'.proposals = g.proposals
  | .members => g'.members = g.members
  | .users => g'.users = g.users
  | .service => g'.service = g.service
  | .app => g'.app = g.app
  | .issuers => g'.issuers = g.issuers
  | .nodes => g'.nodes = g.nodes

theorem Same.refl (g : State) (part : Part) : Same g g part := by
  cases part <;> rfl

/-- An action leaves the parts it does not write alone, also where it throws. -/
theorem apply_frame (ccf : Ccf) (proposalId : Text) (g : State) (action : Action) {part : Part}
    (h : part ∉ action.writes) : Same g (apply ccf proposalId g action g).2 part := by
  cases action
  case add_node_code code_id =>
    cases part
    case nodes | proposals => simp [Action.writes] at h
    all_goals rfl
  all_goals
    cases part
    all_goals first
      | rfl
      | exact absurd (by simp [Action.writes]) h

/-- An accepted action comes from a validator. -/
theorem validate_mem {e : Enactment} {action : Action} (h : validate e = .ok action) :
    ∃ v ∈ validators e.ccf e.args, v.2 = .ok action := by
  rw [validate] at h
  cases hfind : (validators e.ccf e.args).find? fun v => text v.1 = e.name with
  | none => simp [hfind] at h
  | some v => exact ⟨v, List.mem_of_find?_eq_some hfind, by simpa [hfind] using h⟩

/-- Only its own validator accepts an issuer. -/
theorem validateSetJwtIssuer_ok {e : Enactment} {args : SetJwtIssuer}
    (h : validate e = .ok (.set_jwt_issuer args)) :
    validateSetJwtIssuer e.ccf e.args = .ok args := by
  obtain ⟨v, hv, hok⟩ := validate_mem h
  revert v
  simp [validators, Program.except_map_eq_ok]

/-- An action that is not accepted changes nothing. -/
theorem step_refused {e : Enactment} {fault : Fault} (h : validate e = .error fault)
    (g : State) : step g e = g := by
  simp [step, Program.commit, enact, h]

/-- An accepted action is a transaction. -/
theorem step_accepted {e : Enactment} {action : Action} (h : validate e = .ok action)
    (g : State) : step g e = (apply e.ccf e.proposalId g action).commit g := by
  simp [step, Program.commit, enact, h]

/-- An accepted action whose `apply` returns leaves what that leaves. -/
theorem step_returns {g g' : State} {e : Enactment} {action : Action}
    (h : validate e = .ok action) (happly : apply e.ccf e.proposalId g action g = (.ok (), g')) :
    step g e = g' := by
  rw [step_accepted h, Program.commit_of_ok happly]

/-- An enacted action has no effect, or its `apply` has returned. -/
theorem step_cases (g : State) (e : Enactment) :
    step g e = g ∨ ∃ action, validate e = .ok action ∧
      apply e.ccf e.proposalId g action g = (.ok (), step g e) := by
  cases hvalid : validate e with
  | error fault => exact .inl (step_refused hvalid g)
  | ok action =>
    rw [step_accepted hvalid, Program.commit]
    rcases hexit : apply e.ccf e.proposalId g action g with ⟨r, g'⟩
    cases r with
    | ok u => exact .inr ⟨action, rfl, hexit⟩
    | error fault => exact .inl rfl

/-- An action that returns leaves the parts alone that it does not write. -/
theorem frame_of_ok {g g' : State} {ccf : Ccf} {proposalId : Text} {action : Action}
    (h : apply ccf proposalId g action g = (.ok (), g')) (part : Part)
    (hpart : part ∉ action.writes) : Same g g' part := by
  have hframe := apply_frame ccf proposalId g action hpart
  rwa [h] at hframe

/-- A step leaves the parts alone that its action does not write. -/
theorem step_frame (g : State) {e : Enactment} {part : Part}
    (h : ∀ action, validate e = .ok action → part ∉ action.writes) :
    Same g (step g e) part := by
  rcases step_cases g e with hsame | ⟨action, hvalid, happly⟩
  · rw [hsame]
    exact Same.refl g part
  · exact frame_of_ok happly part (h action hvalid)

/-- An action that does not write the package's tables does not read them either. -/
theorem apply_store (ccf : Ccf) (proposalId : Text) (g : State) (store : Store) {action : Action}
    (h : Part.store ∉ action.writes) :
    apply ccf proposalId { g with store } action { g with store } =
      ((apply ccf proposalId g action g).1,
        { (apply ccf proposalId g action g).2 with store }) := by
  cases action with
  | package action => simp [Action.writes] at h
  | _ => rfl

/-- A step on other tables is the same over any tables of the package. -/
theorem step_store (g : State) (store : Store) {e : Enactment}
    (h : ∀ action, validate e = .ok action → Part.store ∉ action.writes) :
    step { g with store } e = { step g e with store } := by
  cases hvalid : validate e with
  | error fault => rw [step_refused hvalid, step_refused hvalid]
  | ok action =>
    rw [step_accepted hvalid, step_accepted hvalid, Program.commit, Program.commit,
      apply_store e.ccf e.proposalId g store (h action hvalid)]
    rcases apply e.ccf e.proposalId g action g with ⟨r, g'⟩
    cases r <;> rfl

/-- What `add_node_code` leaves of the nodes. -/
theorem nodes_addNodeCode {g g' : State} {ccf : Ccf} {proposalId code_id : Text}
    (h : apply ccf proposalId g (.add_node_code code_id) g = (.ok (), g')) :
    g'.nodes = { g.nodes with
      code_ids := g.nodes.code_ids.insert code_id (.str (text "AllowedToJoin")) } := by
  obtain ⟨u, g₁, hnodes, hproposals⟩ := Program.bind_eq_ok.mp h
  obtain ⟨n, hn, rfl⟩ := onNodes_eq_ok.mp hnodes
  obtain ⟨p, -, rfl⟩ := onProposals_eq_ok.mp hproposals
  exact (Program.write_eq_ok.mp hn).symm

/-- The actions that write the nodes, where one returns. -/
theorem nodes_step_cases (g : State) (e : Enactment) :
    (∃ code_ids, (step g e).nodes = { g.nodes with code_ids }) ∨
      (∃ args, setNodeData args g.nodes = (.ok (), (step g e).nodes)) ∨
      (∃ args, validate e = .ok (.transition_node_to_trusted args) ∧
        transitionNodeToTrusted e.ccf g.service.config args g.nodes =
          (.ok (), (step g e).nodes)) ∨
      (∃ id, validate e = .ok (.remove_node id) ∧
        removeNode g.service.config id g.nodes = (.ok (), (step g e).nodes)) ∨
      (∃ args, validate e = .ok (.set_node_certificate_validity args) ∧
        setNodeCertificateValidity e.ccf g.service.config args g.nodes =
          (.ok (), (step g e).nodes)) ∨
      ∃ validity, validate e = .ok (.set_all_nodes_certificate_validity validity) ∧
        setAllNodesCertificateValidity e.ccf g.service.config validity g.nodes =
          (.ok (), (step g e).nodes) := by
  rcases step_cases g e with hsame | ⟨action, hvalid, happly⟩
  · exact .inl ⟨g.nodes.code_ids, by rw [hsame]⟩
  by_cases hwrites : Part.nodes ∈ action.writes
  swap
  · have hnodes : (step g e).nodes = g.nodes := frame_of_ok happly .nodes hwrites
    exact .inl ⟨g.nodes.code_ids, hnodes⟩
  cases action with
  | add_node_code code_id => exact .inl ⟨_, nodes_addNodeCode happly⟩
  | remove_node_code code_id =>
    obtain ⟨n', hn, hg⟩ := onNodes_eq_ok.mp happly
    rw [← hg, ← Program.write_eq_ok.mp hn]
    exact .inl ⟨_, rfl⟩
  | set_node_data args =>
    obtain ⟨n', hn, hg⟩ := onNodes_eq_ok.mp happly
    rw [← hg]
    exact .inr (.inl ⟨args, hn⟩)
  | transition_node_to_trusted args =>
    obtain ⟨n', hn, hg⟩ := onNodes_eq_ok.mp happly
    rw [← hg]
    exact .inr (.inr (.inl ⟨args, hvalid, hn⟩))
  | remove_node id =>
    obtain ⟨n', hn, hg⟩ := onNodes_eq_ok.mp happly
    rw [← hg]
    exact .inr (.inr (.inr (.inl ⟨id, hvalid, hn⟩)))
  | set_node_certificate_validity args =>
    obtain ⟨n', hn, hg⟩ := onNodes_eq_ok.mp happly
    rw [← hg]
    exact .inr (.inr (.inr (.inr (.inl ⟨args, hvalid, hn⟩))))
  | set_all_nodes_certificate_validity validity =>
    obtain ⟨n', hn, hg⟩ := onNodes_eq_ok.mp happly
    rw [← hg]
    exact .inr (.inr (.inr (.inr (.inr ⟨validity, hvalid, hn⟩))))
  | _ => simp [Action.writes] at hwrites

end CcfIdentity.Constitution
