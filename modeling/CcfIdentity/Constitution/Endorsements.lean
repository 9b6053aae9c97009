import CcfIdentity.Constitution.Lifecycle

/-!
# Endorsed certificates

Which certificates the service endorses for its nodes. Three actions endorse or renew one,
for a node they admit or find trusted and for the request of that node, so a pending node
has none; and no action withdraws one, so that a node that is removed keeps its own.
-/

open Utf16

namespace CcfIdentity.Constitution

/-- The nodes with certificates in `before` still have some, and the certificates that are new
are with their nodes in `P`. -/
structure Adds (P : Text → Text → Prop) (before : Table Text) (n : Nodes) : Prop where
  kept : ∀ id ∈ before, id ∈ n.endorsed_certificates
  added : ∀ id cert, n.endorsed_certificates[id]? = some cert →
    before[id]? = some cert ∨ P id cert

theorem Adds.of_same {P : Text → Text → Prop} {n n' : Nodes}
    (h : n'.endorsed_certificates = n.endorsed_certificates) :
    Adds P n.endorsed_certificates n' :=
  ⟨fun _ hid => h ▸ hid, fun _ _ hcert => .inl (h ▸ hcert)⟩

/-- The action endorses the node, if it returns. -/
def Action.endorses (node_id : Text) : Action → Prop
  | transition_node_to_trusted args | set_node_certificate_validity args =>
    args.node_id.val = node_id
  | set_all_nodes_certificate_validity _ => True
  | _ => False

/-- The certificate is generated for the request of the node. -/
def GeneratedFor (ccf : Ccf) (info : NodeInfo) (cert : Text) : Prop :=
  ∃ csr valid_from days, info.certificate_signing_request = some csr ∧
    ccf.certificate (.generateEndorsedCertificate csr valid_from days) = .ok cert

/-- The action endorses the node and has the certificate generated for it. -/
def Endorses (g : State) (e : Enactment) (node_id cert : Text) : Prop :=
  ∃ action info, validate e = .ok action ∧ action.endorses node_id ∧
    g.nodes.info[node_id]? = some info ∧ GeneratedFor e.ccf info cert

section Programs

variable {P : Text → Text → Prop} {before : Table Text} {ccf : Ccf}
  {config : Option ServiceConfig}

/-- An endorsement adds the certificate that is generated for its node. -/
theorem adds_endorse {c : ServiceConfig} {nodeId csr : Text} {nodeInfo : NodeInfo}
    {validity : Validity} {unit max : String}
    (hcsr : nodeInfo.certificate_signing_request = some csr)
    (h : ∀ cert, GeneratedFor ccf nodeInfo cert → P nodeId cert) :
    Program.Keeps (Adds P before) (endorse ccf c nodeId csr validity unit max) := by
  refine Program.keeps_check_bind fun days _ => ?_
  refine Program.keeps_write_bind (fun n hn => ⟨hn.kept, hn.added⟩) fun _ => ?_
  refine Program.keeps_check_bind fun cert hcert => Program.keeps_write fun n hn => ?_
  constructor
  · intro id hid
    exact Table.mem_set.mpr (.inr (hn.kept id hid))
  · intro id other hother
    rw [Table.getElem?_set] at hother
    split at hother
    · next hid =>
      cases hother
      exact .inr (hid ▸ h cert ⟨csr, validity.valid_from, days, hcsr, hcert⟩)
    · exact hn.added id other hother

/-- A renewal adds the certificate that is generated for its node. -/
theorem adds_setNodeCertificateValidityPeriod {nodeId : Text} {nodeInfo : NodeInfo}
    {validity : Validity} (h : ∀ cert, GeneratedFor ccf nodeInfo cert → P nodeId cert) :
    Program.Keeps (Adds P before)
      (setNodeCertificateValidityPeriod ccf config nodeId nodeInfo validity) :=
  keeps_setNodeCertificateValidityPeriod fun _ _ _ hcsr => adds_endorse hcsr h

end Programs

/-- The node is there and no longer pending. -/
def Admitted (g : State) (node_id : Text) : Prop :=
  ∃ status, statusOf g node_id = some status ∧ status ≠ .pending

/-- A node once admitted stays so, also where it is removed. -/
theorem admitted_step {g : State} {node_id : Text} (h : Admitted g node_id) (e : Enactment) :
    Admitted (step g e) node_id := by
  obtain ⟨status, hstatus, hpending⟩ := h
  rcases reaches_step g e node_id with hsame | ⟨hbefore, -⟩ | ⟨-, hafter | hafter⟩
  · exact ⟨status, hsame.trans hstatus, hpending⟩
  · cases hstatus.symm.trans hbefore
    exact absurd rfl hpending
  · exact ⟨_, hafter, by decide⟩
  · exact ⟨_, hafter, by decide⟩

theorem admitted_of_trusted {g : State} {node_id : Text} {info : NodeInfo}
    (hinfo : g.nodes.info[node_id]? = some info) (h : info.status = .trusted) :
    Admitted g node_id :=
  ⟨.trusted, by rw [statusOf, hinfo, Option.map_some, h], by decide⟩

theorem admitted_ne_pending (config : ServiceConfig) : admitted config ≠ .pending := by
  rw [admitted]
  split <;> decide

/-- Removal withdraws no certificate. -/
theorem certificates_dismiss (config : ServiceConfig) (nodeId : Text) (n : Nodes) :
    (n.dismiss config nodeId).endorsed_certificates = n.endorsed_certificates := by
  rw [Nodes.dismiss]
  split
  · rfl
  · split <;> rfl

/-- The certificate is new with the action, and of a node that it leaves admitted. -/
def NewlyEndorsed (g : State) (e : Enactment) (node_id cert : Text) : Prop :=
  Admitted (step g e) node_id ∧ Endorses g e node_id cert

/-- An action leaves no node without the certificate it had, and adds those it has generated
for nodes it leaves admitted. -/
theorem adds_step (g : State) (e : Enactment) :
    Adds (NewlyEndorsed g e) g.nodes.endorsed_certificates (step g e).nodes := by
  have hrefl : Adds (NewlyEndorsed g e) g.nodes.endorsed_certificates g.nodes := Adds.of_same rfl
  rcases nodes_step_cases g e with ⟨code_ids, hn⟩ | ⟨args, hn⟩ | ⟨args, hvalid, hn⟩ | ⟨id, -, hn⟩ |
    ⟨args, hvalid, hn⟩ | ⟨validity, hvalid, hn⟩
  · exact Adds.of_same (by rw [hn])
  · obtain ⟨info, -, hafter⟩ := setNodeData_ok hn
    exact Adds.of_same (by rw [hafter])
  · obtain ⟨config, info, -, -, ⟨-, hsame⟩ | ⟨-, -, hinfo⟩⟩ := transitionNodeToTrusted_ok hn
    · exact Adds.of_same (by rw [hsame])
    have hadmitted : Admitted (step g e) args.node_id.val := by
      refine ⟨admitted config, ?_, admitted_ne_pending config⟩
      rw [statusOf, hinfo, Std.ExtTreeMap.getElem?_insert_self]
      rfl
    have hadds : Adds (NewlyEndorsed g e) g.nodes.endorsed_certificates
        (transitionNodeToTrusted e.ccf g.service.config args g.nodes).2 :=
      keeps_transitionNodeToTrusted (fun _ _ hn => ⟨hn.kept, hn.added⟩) (fun _ _ _ _ hnode hcsr =>
        adds_endorse hcsr fun cert hcert => ⟨hadmitted, _, _, hvalid, rfl, hnode, hcert⟩) hrefl
    rwa [hn] at hadds
  · obtain ⟨config, -, hafter⟩ := removeNode_eq_ok.mp hn
    exact Adds.of_same (by rw [← hafter, certificates_dismiss])
  · obtain ⟨info, hinfo, htrusted, hperiod⟩ := setNodeCertificateValidity_ok hn
    have hadmitted := admitted_step (admitted_of_trusted hinfo htrusted) e
    have hadds : Adds (NewlyEndorsed g e) g.nodes.endorsed_certificates
        (setNodeCertificateValidityPeriod e.ccf g.service.config args.node_id.val info
          args.validity g.nodes).2 :=
      adds_setNodeCertificateValidityPeriod
        (fun cert hcert => ⟨hadmitted, _, _, hvalid, rfl, hinfo, hcert⟩) g.nodes hrefl
    rwa [hperiod] at hadds
  · have hadds : Adds (NewlyEndorsed g e) g.nodes.endorsed_certificates
        (setAllNodesCertificateValidity e.ccf g.service.config validity g.nodes).2 := by
      refine keeps_setAllNodesCertificateValidity (fun nodeId nodeInfo hinfo htrusted => ?_) hrefl
      have hadmitted := admitted_step (admitted_of_trusted hinfo htrusted) e
      exact adds_setNodeCertificateValidityPeriod fun cert hcert =>
        ⟨hadmitted, _, _, hvalid, trivial, hinfo, hcert⟩
    rwa [hn] at hadds

/-- Every endorsed certificate is of a node that has been admitted. -/
def CertifiesAdmitted (g : State) : Prop :=
  ∀ id ∈ g.nodes.endorsed_certificates, Admitted g id

theorem certifiesAdmitted_step (g : State) (e : Enactment) (h : CertifiesAdmitted g) :
    CertifiesAdmitted (step g e) := by
  intro id hid
  obtain ⟨cert, hcert⟩ := (Table.contains_iff _ id).mp hid
  rcases (adds_step g e).added id cert hcert with hbefore | hnew
  · exact admitted_step (h id ((Table.contains_iff _ id).mpr ⟨cert, hbefore⟩)) e
  · exact hnew.1

/-- After every run of enacted actions every endorsed certificate is of a node that has been
admitted; no node is without a certificate that had one, those removed included; and every
certificate is one of the start or was generated, for the request of its node, by an action
of the run that endorses the node. -/
theorem endorsed_run {g : State} (h : CertifiesAdmitted g) (es : List Enactment) :
    CertifiesAdmitted (Runs.run step g es) ∧
      (∀ id ∈ g.nodes.endorsed_certificates,
        id ∈ (Runs.run step g es).nodes.endorsed_certificates) ∧
      ∀ (id cert : Text), (Runs.run step g es).nodes.endorsed_certificates[id]? = some cert →
        g.nodes.endorsed_certificates[id]? = some cert ∨ ∃ done e, done ++ [e] <+: es ∧
          Endorses (Runs.run step g done) e id cert := by
  refine ⟨Runs.run_preserves certifiesAdmitted_step h es, fun id hid => ?_, fun id cert hcert => ?_⟩
  · exact Runs.run_preserves (I := fun s : State => id ∈ s.nodes.endorsed_certificates)
      (fun s e hs => (adds_step s e).kept id hs) hid es
  · refine or_iff_not_imp_left.mpr fun hnot => ?_
    obtain ⟨done, e, hpre, hbefore, hafter⟩ := Runs.exists_switch
      (Q := fun s : State => s.nodes.endorsed_certificates[id]? = some cert) hnot hcert
    exact ⟨done, e, hpre, (((adds_step _ e).added id cert hafter).resolve_left hbefore).2⟩

/-! A trusted node that a proposal removes. -/

private def removedId : Text := List.replicate 64 0x62

private def certifiedNode : State :=
  { State.empty with
    service := ⟨some ⟨1, none, none, none, none⟩, none, []⟩
    nodes := { State.empty.nodes with
      info := (∅ : Table NodeInfo).insert removedId ⟨.trusted, none, none, none⟩
      endorsed_certificates := (∅ : Table Text).insert removedId (text "cert") } }

private def removeCertified : Enactment where
  ccf := .accepting
  proposalId := text "p0"
  name := text "remove_node"
  args := some (.obj [(text "node_id", .str removedId)])

/-- The removed node keeps its certificate. -/
theorem certifiedNode_keeps :
    CertifiesAdmitted (Runs.run step certifiedNode [removeCertified]) ∧
      (Runs.run step certifiedNode [removeCertified]).nodes.endorsed_certificates[removedId]? =
        some (text "cert") := by
  have hadmitted : CertifiesAdmitted certifiedNode := by
    intro id hid
    have heq : removedId = id := by
      simpa [certifiedNode, State.empty] using hid
    have hinfo : certifiedNode.nodes.info[id]? = some ⟨.trusted, none, none, none⟩ := by
      simp [certifiedNode, heq]
    exact admitted_of_trusted hinfo rfl
  obtain ⟨hafter, hkept, hvalues⟩ := endorsed_run hadmitted [removeCertified]
  obtain ⟨cert, hcert⟩ :=
    (Table.contains_iff _ _).mp (hkept removedId (by simp [certifiedNode]))
  refine ⟨hafter, ?_⟩
  rcases hvalues removedId cert hcert with hbefore | ⟨done, e, hpre, action, info, hvalid, hends, -⟩
  · rw [hcert, ← hbefore]
    exact Std.ExtTreeMap.getElem?_insert_self
  · -- the one action of the run removes a node
    have he : e = removeCertified := List.mem_singleton.mp (hpre.subset (by simp))
    subst he
    have hremoves : validate removeCertified = .ok (.remove_node ⟨removedId, by decide⟩) := rfl
    cases hremoves.symm.trans hvalid
    cases hends

end CcfIdentity.Constitution
