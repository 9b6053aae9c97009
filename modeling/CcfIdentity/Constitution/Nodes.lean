import CcfIdentity.Constitution.Service

/-!
# Nodes

The actions on nodes, `samples/logapp/constitution/actions.js:901–1140`, and the renewal of
a node's certificate they share, `:196–237`. A node is pending until it is trusted; with a
reconfiguration in two transactions an action makes it a learner or has it retire, and the
node itself takes the second step.
-/

open Utf16

namespace CcfIdentity.Constitution

/-- Lines 903–905 and 1018–1020. -/
def validateCodeId (args : Option Json) : Except Fault Text := do
  checkType .string (← field args "code_id") (lit "code_id")

/-- Lines 907–909. -/
def addNodeCode (code_id : Text) : Program Fault Nodes Unit :=
  .write fun n => { n with code_ids := n.code_ids.insert code_id (.str (text "AllowedToJoin")) }

/-- Lines 1021–1024. -/
def removeNodeCode (code_id : Text) : Program Fault Nodes Unit :=
  .write fun n => { n with code_ids := n.code_ids.erase code_id }

/-- What the check leaves of the arguments of `set_node_data`. -/
structure SetNodeData where
  node_id : EntityId
  node_data : Option Json

/-- Lines 919–921. -/
def validateSetNodeData (args : Option Json) : Except Fault SetNodeData := do
  let node_id ← checkEntityId (← field args "node_id") (lit "node_id")
  return { node_id, node_data := ← field args "node_data" }

/-- Lines 922–932. What the error shows is the identifier's buffer. -/
def setNodeData (args : SetNodeData) : Program Fault Nodes Unit := do
  let n ← .read id
  match n.info[args.node_id.val]? with
  | none => .throw (errorOf (lit "Node [object ArrayBuffer] does not exist"))
  | some ni =>
    .write fun n => { n with
      info := n.info.insert args.node_id.val
        { ni with node_data := args.node_data.map Json.stored } }

/-- What the checks leave of the arguments of an action on one node's certificate. -/
structure NodeValidity where
  node_id : EntityId
  validity : Validity

/-- Lines 938–954 and 1068–1084. -/
def validateNodeValidity (args : Option Json) : Except Fault NodeValidity := do
  let node_id ← checkEntityId (← field args "node_id") (lit "node_id")
  return { node_id, validity := ← validateValidity args }

/-- The longest period a node's certificate may have, lines 214–217 and 987–990. -/
def maximumNodeValidity (serviceConfig : ServiceConfig) : Int :=
  serviceConfig.maximum_node_certificate_validity_days.getD default_validity_period_days

/-- Lines 219–236 and 991–1009, which differ in the text of the error. -/
def endorse (ccf : Ccf) (serviceConfig : ServiceConfig) (nodeId csr : Text) (validity : Validity)
    (unit max : String) : Program Fault Nodes Unit := do
  let days ← .check (allowedPeriod validity (maximumNodeValidity serviceConfig) unit max)
  let call := Call.generateEndorsedCertificate csr validity.valid_from days
  .write fun n => { n with calls := n.calls ++ [call] }
  let endorsed_node_cert ← .check (ccf.certificate call)
  .write fun n => { n with
    endorsed_certificates := n.endorsed_certificates.insert nodeId endorsed_node_cert }

/-- The status of a node that is trusted, lines 971–974. -/
def admitted (serviceConfig : ServiceConfig) : NodeStatus :=
  if serviceConfig.reconfiguration_type = some (text "TwoTransaction") then .learner else .trusted

/-- Lines 983–1010. -/
def endorseAdmitted (ccf : Ccf) (serviceConfig : ServiceConfig) (nodeId : Text)
    (nodeInfo : NodeInfo) (validity : Validity) : Program Fault Nodes Unit :=
  match nodeInfo.certificate_signing_request with
  | none => pure ()
  | some csr =>
    if serviceConfig.consensus = some (text "BFT") then pure ()
    else endorse ccf serviceConfig nodeId csr validity "" "max"

/-- Lines 955–1012. -/
def transitionNodeToTrusted (ccf : Ccf) (config : Option ServiceConfig) (args : NodeValidity) :
    Program Fault Nodes Unit := do
  match config with
  | none => .throw (errorOf (lit "Service configuration could not be found"))
  | some serviceConfig => do
    let n ← .read id
    match n.info[args.node_id.val]? with
    | none => .throw (errorOf (lit "No such node: " ++ [.text args.node_id.val]))
    | some nodeInfo =>
      if nodeInfo.status = .pending then do
        .write fun n => { n with info := n.info.insert args.node_id.val { nodeInfo with
          status := admitted serviceConfig
          ledger_secret_seqno := some ccf.getLatestLedgerSecretSeqno } }
        endorseAdmitted ccf serviceConfig args.node_id.val nodeInfo args.validity
      else pure ()

/-- The status of a node that is removed, lines 1053–1056. -/
def dismissed (serviceConfig : ServiceConfig) : NodeStatus :=
  if serviceConfig.reconfiguration_type = some (text "TwoTransaction") then .retiring else .retired

/-- Lines 1030–1032. -/
def validateRemoveNode (args : Option Json) : Except Fault EntityId := do
  checkEntityId (← field args "node_id") (lit "node_id")

/-- Lines 1041–1061. -/
def Nodes.dismiss (serviceConfig : ServiceConfig) (nodeId : Text) (n : Nodes) : Nodes :=
  match n.info[nodeId]? with
  | none => n
  | some node_obj =>
    if node_obj.status = .pending then { n with info := n.info.erase nodeId }
    else { n with
      info := n.info.insert nodeId { node_obj with status := dismissed serviceConfig } }

/-- Lines 1033–1062. -/
def removeNode (config : Option ServiceConfig) (node_id : EntityId) :
    Program Fault Nodes Unit :=
  match config with
  | none => .throw (errorOf (lit "Service configuration could not be found"))
  | some serviceConfig => .write (Nodes.dismiss serviceConfig node_id.val)

/-- Lines 196–237. -/
def setNodeCertificateValidityPeriod (ccf : Ccf) (config : Option ServiceConfig)
    (nodeId : Text) (nodeInfo : NodeInfo) (validity : Validity) : Program Fault Nodes Unit :=
  match nodeInfo.certificate_signing_request with
  | none => .throw (errorOf (lit "Node " ++ [.text nodeId] ++
      lit " has no certificate signing request"))
  | some csr =>
    match config with
    | none => .throw (errorOf (lit "Service configuration could not be found"))
    | some serviceConfig => endorse ccf serviceConfig nodeId csr validity " (days)" "service max"

/-- Lines 1085–1103. -/
def setNodeCertificateValidity (ccf : Ccf) (config : Option ServiceConfig)
    (args : NodeValidity) : Program Fault Nodes Unit := do
  let n ← .read id
  match n.info[args.node_id.val]? with
  | none => .throw (errorOf (lit "No such node: " ++ [.text args.node_id.val]))
  | some nodeInfo => do
    .check (refuseIf (nodeInfo.status ≠ .trusted)
      (lit "Node " ++ [.text args.node_id.val] ++ lit " is not trusted"))
    setNodeCertificateValidityPeriod ccf config args.node_id.val nodeInfo args.validity

/-- Lines 1125–1138. The nodes are visited in the order of their identifiers; the source
leaves the order to the table. -/
def setAllNodesCertificateValidity (ccf : Ccf) (config : Option ServiceConfig)
    (validity : Validity) : Program Fault Nodes Unit := do
  let n ← .read id
  .forEach (fun (nodeId, nodeInfo) =>
    if nodeInfo.status = .trusted then
      setNodeCertificateValidityPeriod ccf config nodeId nodeInfo validity
    else pure ()) n.info.toList

/-! ### What the actions leave -/

/-- An endorsement that returns has had a certificate of an allowed period generated. -/
theorem endorse_eq_ok {ccf : Ccf} {config : ServiceConfig} {nodeId csr : Text}
    {validity : Validity} {unit max : String} {n n' : Nodes} :
    endorse ccf config nodeId csr validity unit max n = (.ok (), n') ↔
      ∃ days, allowedPeriod validity (maximumNodeValidity config) unit max = .ok days ∧
        ∃ cert, ccf.certificate (.generateEndorsedCertificate csr validity.valid_from days) =
            .ok cert ∧
          { n with
            calls := n.calls ++ [.generateEndorsedCertificate csr validity.valid_from days]
            endorsed_certificates := n.endorsed_certificates.insert nodeId cert } = n' := by
  simp only [endorse, Program.check_bind_eq_ok, Program.write_bind, Program.write_eq_ok]

/-- A renewal that returns has endorsed the node's request. -/
theorem setNodeCertificateValidityPeriod_ok {ccf : Ccf} {config : Option ServiceConfig}
    {nodeId : Text} {nodeInfo : NodeInfo} {validity : Validity} {n n' : Nodes}
    (h : setNodeCertificateValidityPeriod ccf config nodeId nodeInfo validity n = (.ok (), n')) :
    ∃ csr serviceConfig, nodeInfo.certificate_signing_request = some csr ∧
      config = some serviceConfig ∧
      endorse ccf serviceConfig nodeId csr validity " (days)" "service max" n = (.ok (), n') := by
  rw [setNodeCertificateValidityPeriod] at h
  cases hcsr : nodeInfo.certificate_signing_request with
  | none => simp [hcsr] at h
  | some csr =>
    cases config with
    | none => simp [hcsr] at h
    | some serviceConfig => exact ⟨csr, serviceConfig, rfl, rfl, by simpa only [hcsr] using h⟩

/-- The node's certificate, if it asks for one, can be generated for the period asked for. -/
def Endorsable (ccf : Ccf) (config : ServiceConfig) (info : NodeInfo) (validity : Validity) :
    Prop :=
  ∀ csr, info.certificate_signing_request = some csr → config.consensus ≠ some (text "BFT") →
    ∃ days, allowedPeriod validity (maximumNodeValidity config) "" "max" = .ok days ∧
      ∃ cert, ccf.certificate (.generateEndorsedCertificate csr validity.valid_from days) =
        .ok cert

/-- The endorsement of a node that is trusted leaves what is known of the nodes. -/
theorem endorseAdmitted_ok {ccf : Ccf} {config : ServiceConfig} {nodeId : Text}
    {nodeInfo : NodeInfo} {validity : Validity} {n n' : Nodes}
    (h : endorseAdmitted ccf config nodeId nodeInfo validity n = (.ok (), n')) :
    Endorsable ccf config nodeInfo validity ∧ n'.info = n.info := by
  rw [endorseAdmitted] at h
  cases hcsr : nodeInfo.certificate_signing_request with
  | none =>
    simp only [hcsr, Program.pure_apply, Prod.mk.injEq, true_and] at h
    exact ⟨fun csr hsome => by simp [hcsr] at hsome, by rw [h]⟩
  | some csr =>
    simp only [hcsr, Program.ite_apply, Program.pure_apply] at h
    split at h
    · next hbft =>
      rw [Prod.mk.injEq] at h
      exact ⟨fun _ _ hcft => absurd hbft hcft, by rw [h.2]⟩
    · obtain ⟨days, hdays, cert, hcert, rfl⟩ := endorse_eq_ok.mp h
      refine ⟨fun other hother _ => ?_, rfl⟩
      cases hcsr.symm.trans hother
      exact ⟨days, hdays, cert, hcert⟩

/-- Where its certificate can be generated, the node is endorsed. -/
theorem endorseAdmitted_returns {ccf : Ccf} {config : ServiceConfig} {nodeInfo : NodeInfo}
    {validity : Validity} (nodeId : Text) (n : Nodes)
    (h : Endorsable ccf config nodeInfo validity) :
    ∃ n', endorseAdmitted ccf config nodeId nodeInfo validity n = (.ok (), n') := by
  rw [endorseAdmitted]
  cases hcsr : nodeInfo.certificate_signing_request with
  | none => exact ⟨n, rfl⟩
  | some csr =>
    by_cases hbft : config.consensus = some (text "BFT")
    · exact ⟨n, by simp [hbft]⟩
    · obtain ⟨days, hdays, cert, hcert⟩ := h csr hcsr hbft
      simp only [if_neg hbft]
      exact ⟨_, endorse_eq_ok.mpr ⟨days, hdays, cert, hcert, Eq.refl _⟩⟩

/-- A node that is trusted was pending, and is then what the configuration says. -/
theorem transitionNodeToTrusted_ok {ccf : Ccf} {config : Option ServiceConfig}
    {args : NodeValidity} {n n' : Nodes}
    (h : transitionNodeToTrusted ccf config args n = (.ok (), n')) :
    ∃ serviceConfig info, config = some serviceConfig ∧
      n.info[args.node_id.val]? = some info ∧
      (info.status ≠ .pending ∧ n' = n ∨
        info.status = .pending ∧ Endorsable ccf serviceConfig info args.validity ∧
          n'.info = n.info.insert args.node_id.val { info with
            status := admitted serviceConfig
            ledger_secret_seqno := some ccf.getLatestLedgerSecretSeqno }) := by
  cases config with
  | none => simp [transitionNodeToTrusted] at h
  | some serviceConfig =>
    simp only [transitionNodeToTrusted, Program.read_bind, id_eq] at h
    cases hinfo : n.info[args.node_id.val]? with
    | none => simp [hinfo] at h
    | some info =>
      refine ⟨serviceConfig, info, rfl, rfl, ?_⟩
      simp only [hinfo, Program.ite_apply, Program.write_bind, Program.pure_apply] at h
      split at h
      · next hpending =>
        obtain ⟨hendorsable, hsame⟩ := endorseAdmitted_ok h
        exact .inr ⟨hpending, hendorsable, hsame⟩
      · next hpending =>
        rw [Prod.mk.injEq] at h
        exact .inl ⟨hpending, h.2.symm⟩

/-- A pending node whose certificate can be generated is trusted. -/
theorem transitionNodeToTrusted_returns {ccf : Ccf} {serviceConfig : ServiceConfig}
    {args : NodeValidity} {n : Nodes} {info : NodeInfo}
    (hinfo : n.info[args.node_id.val]? = some info) (hpending : info.status = .pending)
    (h : Endorsable ccf serviceConfig info args.validity) :
    ∃ n', transitionNodeToTrusted ccf (some serviceConfig) args n = (.ok (), n') := by
  obtain ⟨n', hn'⟩ := endorseAdmitted_returns args.node_id.val _ h
  refine ⟨n', ?_⟩
  simp only [transitionNodeToTrusted, Program.read_bind, id_eq, hinfo, Program.ite_apply,
    Program.write_bind, if_pos hpending]
  exact hn'

/-- Removal needs a configuration and nothing else. -/
theorem removeNode_eq_ok {config : Option ServiceConfig} {node_id : EntityId} {n n' : Nodes} :
    removeNode config node_id n = (.ok (), n') ↔
      ∃ serviceConfig, config = some serviceConfig ∧ n.dismiss serviceConfig node_id.val = n' := by
  cases config with
  | none => simp [removeNode]
  | some serviceConfig =>
    simp only [removeNode, Program.write_eq_ok, Option.some.injEq, exists_eq_left']

/-- Removal calls nothing. -/
theorem calls_dismiss (config : ServiceConfig) (nodeId : Text) (n : Nodes) :
    (n.dismiss config nodeId).calls = n.calls := by
  rw [Nodes.dismiss]
  split
  · rfl
  · split <;> rfl

/-- A node whose data are set exists. -/
theorem setNodeData_ok {args : SetNodeData} {n n' : Nodes}
    (h : setNodeData args n = (.ok (), n')) :
    ∃ info, n.info[args.node_id.val]? = some info ∧ n' = { n with
      info := n.info.insert args.node_id.val
        { info with node_data := args.node_data.map Json.stored } } := by
  simp only [setNodeData, Program.read_bind, id_eq] at h
  cases hinfo : n.info[args.node_id.val]? with
  | none => simp [hinfo] at h
  | some info =>
    simp only [hinfo, Program.write_eq_ok] at h
    exact ⟨info, rfl, h.symm⟩

/-- A node whose certificate is renewed is trusted. -/
theorem setNodeCertificateValidity_ok {ccf : Ccf} {config : Option ServiceConfig}
    {args : NodeValidity} {n n' : Nodes}
    (h : setNodeCertificateValidity ccf config args n = (.ok (), n')) :
    ∃ info, n.info[args.node_id.val]? = some info ∧ info.status = .trusted ∧
      setNodeCertificateValidityPeriod ccf config args.node_id.val info args.validity n =
        (.ok (), n') := by
  simp only [setNodeCertificateValidity, Program.read_bind, id_eq] at h
  cases hinfo : n.info[args.node_id.val]? with
  | none => simp [hinfo] at h
  | some info =>
    simp only [hinfo, Program.check_bind_eq_ok, refuseIf_eq_ok, not_not] at h
    obtain ⟨u, hstatus, h⟩ := h
    exact ⟨info, rfl, hstatus, h⟩

/-! ### What endorsing keeps, the actions keep -/

section Keeps

variable {I : Nodes → Prop} {ccf : Ccf} {config : Option ServiceConfig}

/-- Admitting a node keeps what its endorsement keeps, if it depends on no status. -/
theorem keeps_transitionNodeToTrusted {args : NodeValidity} {n : Nodes}
    (hinfo : ∀ n info, I n → I { n with info })
    (h : ∀ c info csr, config = some c → n.info[args.node_id.val]? = some info →
      info.certificate_signing_request = some csr →
      Program.Keeps I (endorse ccf c args.node_id.val csr args.validity "" "max"))
    (hn : I n) : I (transitionNodeToTrusted ccf config args n).2 := by
  cases config with
  | none => exact hn
  | some serviceConfig =>
    rw [transitionNodeToTrusted, Program.read_bind, id_eq]
    cases hnode : n.info[args.node_id.val]? with
    | none => exact hn
    | some info =>
      refine Program.keeps_ite ?_ (Program.keeps_pure ()) n hn
      refine Program.keeps_write_bind (fun n hn => hinfo n _ hn) fun _ => ?_
      rw [endorseAdmitted]
      cases hcsr : info.certificate_signing_request with
      | none => exact Program.keeps_pure ()
      | some csr =>
        exact Program.keeps_ite (Program.keeps_pure ()) (h serviceConfig info csr rfl hnode hcsr)

/-- Renewing a certificate keeps what the endorsement keeps. -/
theorem keeps_setNodeCertificateValidityPeriod {nodeId : Text} {nodeInfo : NodeInfo}
    {validity : Validity}
    (h : ∀ c csr, config = some c → nodeInfo.certificate_signing_request = some csr →
      Program.Keeps I (endorse ccf c nodeId csr validity " (days)" "service max")) :
    Program.Keeps I (setNodeCertificateValidityPeriod ccf config nodeId nodeInfo validity) := by
  rw [setNodeCertificateValidityPeriod]
  cases hcsr : nodeInfo.certificate_signing_request with
  | none => exact Program.keeps_throw _
  | some csr =>
    cases config with
    | none => exact Program.keeps_throw _
    | some serviceConfig => exact h serviceConfig csr rfl hcsr

/-- Renewing all certificates keeps what is kept for every trusted node. -/
theorem keeps_setAllNodesCertificateValidity {validity : Validity} {n : Nodes}
    (h : ∀ nodeId nodeInfo, n.info[nodeId]? = some nodeInfo → nodeInfo.status = .trusted →
      Program.Keeps I (setNodeCertificateValidityPeriod ccf config nodeId nodeInfo validity))
    (hn : I n) : I (setAllNodesCertificateValidity ccf config validity n).2 := by
  rw [setAllNodesCertificateValidity, Program.read_bind, id_eq]
  refine Program.keeps_forEach (fun entry hentry => ?_) n hn
  have hinfo := Std.ExtTreeMap.mem_toList_iff_getElem?_eq_some.mp hentry
  show Program.Keeps I (if entry.2.status = .trusted then _ else _)
  split
  · next htrusted => exact h entry.1 entry.2 hinfo htrusted
  · exact Program.keeps_pure ()

/-- An endorsement leaves what is known of the nodes alone. -/
theorem info_endorse (ccf : Ccf) (config : ServiceConfig) (nodeId csr : Text)
    (validity : Validity) (unit max : String) {info : Table NodeInfo} :
    Program.Keeps (fun n => n.info = info)
      (endorse ccf config nodeId csr validity unit max) :=
  Program.keeps_check_bind fun _ _ => Program.keeps_write_bind (fun _ hn => hn)
    fun _ => Program.keeps_check_bind fun _ _ => Program.keeps_write fun _ hn => hn

/-- A renewal of all certificates leaves what is known of the nodes alone. -/
theorem info_setAllNodesCertificateValidity (ccf : Ccf) (config : Option ServiceConfig)
    (validity : Validity) (n : Nodes) :
    (setAllNodesCertificateValidity ccf config validity n).2.info = n.info :=
  keeps_setAllNodesCertificateValidity (I := fun n' => n'.info = n.info)
    (fun nodeId _ _ _ => keeps_setNodeCertificateValidityPeriod fun c csr _ _ =>
      info_endorse ccf c nodeId csr validity _ _) rfl

end Keeps

end CcfIdentity.Constitution
