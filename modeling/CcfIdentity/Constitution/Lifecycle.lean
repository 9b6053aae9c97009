import CcfIdentity.Constitution.Steps

/-!
# Lives of the nodes

What the actions make of a node's status along a run. They trust a pending node only, take
no trust back but by removal, and a node once removed never comes back: `Reaches` is the
diagram that every run keeps to. Which nodes a run leaves trusted follows from what one
action does.
-/

open Utf16

namespace CcfIdentity.Constitution

/-- The status the tables have for a node. -/
def statusOf (g : State) (node_id : Text) : Option NodeStatus :=
  g.nodes.info[node_id]?.map NodeInfo.status

/-- The action admits a pending node. -/
def Admits (node_id : Text) (config : ServiceConfig) (g : State) (e : Enactment) : Prop :=
  g.service.config = some config ∧
    ∃ args info, validate e = .ok (.transition_node_to_trusted args) ∧
      args.node_id.val = node_id ∧ g.nodes.info[node_id]? = some info ∧
      info.status = .pending ∧ Endorsable e.ccf config info args.validity

/-- The action removes a node. -/
def Dismisses (node_id : Text) (config : ServiceConfig) (g : State) (e : Enactment) : Prop :=
  g.service.config = some config ∧
    ∃ id : EntityId, validate e = .ok (.remove_node id) ∧ id.val = node_id

/-- What removal makes of a status. -/
def dismissal (config : ServiceConfig) (status : NodeStatus) : Option NodeStatus :=
  if status = .pending then none else some (dismissed config)

/-- The statuses after a removal. -/
theorem status_dismiss (config : ServiceConfig) (nodeId other : Text) (n : Nodes) :
    (n.dismiss config nodeId).info[other]?.map NodeInfo.status =
      if nodeId = other then (n.info[other]?.map NodeInfo.status).bind (dismissal config)
      else n.info[other]?.map NodeInfo.status := by
  by_cases hother : nodeId = other
  · subst hother
    rw [if_pos rfl, Nodes.dismiss]
    cases hinfo : n.info[nodeId]? with
    | none => simp [hinfo]
    | some info =>
      by_cases hpending : info.status = .pending
      · simp [hpending, dismissal]
      · simp [hpending, dismissal]
  · rw [if_neg hother, Nodes.dismiss]
    cases n.info[nodeId]? with
    | none => rfl
    | some info =>
      by_cases hpending : info.status = .pending
      · simp only [if_pos hpending, Table.getElem?_delete, if_neg hother]
      · simp only [if_neg hpending, Table.getElem?_set, if_neg hother]

/-! ### One action -/

/-- An action that admits a node gives it the status of the configuration. -/
theorem status_admits {node_id : Text} {config : ServiceConfig} {g : State} {e : Enactment}
    (h : Admits node_id config g e) : statusOf (step g e) node_id = some (admitted config) := by
  obtain ⟨hconfig, args, info, hvalid, rfl, hinfo, hpending, hendorsable⟩ := h
  obtain ⟨n', hn⟩ := transitionNodeToTrusted_returns hinfo hpending hendorsable
  rw [← hconfig] at hn
  have hstep : step g e = { g with nodes := n' } :=
    step_returns hvalid (onNodes_eq_ok.mpr ⟨n', hn, rfl⟩)
  obtain ⟨config', info', hconfig', hinfo', hcase⟩ := transitionNodeToTrusted_ok hn
  cases hconfig.symm.trans hconfig'
  cases hinfo.symm.trans hinfo'
  rcases hcase with ⟨hnot, -⟩ | ⟨-, -, hn'⟩
  · exact absurd hpending hnot
  · rw [hstep, statusOf, hn', Std.ExtTreeMap.getElem?_insert_self]
    rfl

/-- An action that removes a node has it forgotten or retire. -/
theorem status_dismisses {node_id : Text} {config : ServiceConfig} {g : State} {e : Enactment}
    (h : Dismisses node_id config g e) :
    statusOf (step g e) node_id = (statusOf g node_id).bind (dismissal config) := by
  obtain ⟨hconfig, id, hvalid, rfl⟩ := h
  have hstep : step g e = { g with nodes := g.nodes.dismiss config id.val } :=
    step_returns hvalid (onNodes_eq_ok.mpr ⟨_, removeNode_eq_ok.mpr ⟨config, hconfig, rfl⟩, rfl⟩)
  rw [hstep, statusOf, status_dismiss, if_pos rfl]
  rfl

/-- Every other action leaves the node's status alone. -/
theorem status_other {node_id : Text} {g : State} {e : Enactment}
    (hadmits : ∀ config, ¬ Admits node_id config g e)
    (hdismisses : ∀ config, ¬ Dismisses node_id config g e) :
    statusOf (step g e) node_id = statusOf g node_id := by
  rcases nodes_step_cases g e with ⟨code_ids, hn⟩ | ⟨args, hn⟩ | ⟨args, hvalid, hn⟩ |
    ⟨id, hvalid, hn⟩ | ⟨args, -, hn⟩ | ⟨validity, -, hn⟩
  · rw [statusOf, hn, statusOf]
  · obtain ⟨info, hinfo, hafter⟩ := setNodeData_ok hn
    rw [statusOf, statusOf, hafter, Table.getElem?_set]
    by_cases hid : args.node_id.val = node_id
    · rw [if_pos hid, ← hid, hinfo]
      rfl
    · rw [if_neg hid]
  · obtain ⟨config, info, hconfig, hinfo, hcase⟩ := transitionNodeToTrusted_ok hn
    rcases hcase with ⟨-, hafter⟩ | ⟨hpending, hendorsable, hafter⟩
    · rw [statusOf, hafter, statusOf]
    by_cases hid : args.node_id.val = node_id
    · exact absurd ⟨hconfig, args, info, hvalid, hid, hid ▸ hinfo, hpending, hendorsable⟩
        (hadmits config)
    · rw [statusOf, statusOf, hafter, Table.getElem?_set, if_neg hid]
  · obtain ⟨config, hconfig, hafter⟩ := removeNode_eq_ok.mp hn
    have hid : id.val ≠ node_id := fun hid => hdismisses config ⟨hconfig, id, hvalid, hid⟩
    rw [statusOf, ← hafter, status_dismiss, if_neg hid]
    rfl
  · obtain ⟨info, -, -, hperiod⟩ := setNodeCertificateValidity_ok hn
    obtain ⟨csr, config, -, -, hendorse⟩ := setNodeCertificateValidityPeriod_ok hperiod
    obtain ⟨days, -, cert, -, hafter⟩ := endorse_eq_ok.mp hendorse
    rw [statusOf, ← hafter]
    rfl
  · have hinfo := info_setAllNodesCertificateValidity e.ccf g.service.config validity g.nodes
    rw [hn] at hinfo
    rw [statusOf, statusOf, hinfo]

/-! ### Runs -/

/-- One status can become another. A node that is removed again may be retiring after it was
retired, where the configuration has changed in between. -/
def Reaches (before after : Option NodeStatus) : Prop :=
  after = before ∨
    before = some .pending ∧ (after = none ∨ after = some .learner ∨ after = some .trusted) ∨
    before ≠ none ∧ (after = some .retiring ∨ after = some .retired)

theorem Reaches.trans {a b c : Option NodeStatus} (hab : Reaches a b) (hbc : Reaches b c) :
    Reaches a c := by
  rcases hbc with rfl | ⟨rfl, hc⟩ | ⟨hb, hc⟩
  · exact hab
  · rcases hab with rfl | ⟨-, h | h | h⟩ | ⟨-, h | h⟩
    · exact .inr (.inl ⟨rfl, hc⟩)
    all_goals cases h
  · refine .inr (.inr ⟨?_, hc⟩)
    rintro rfl
    rcases hab with rfl | ⟨h, -⟩ | ⟨h, -⟩
    · exact hb rfl
    · cases h
    · exact h rfl

/-- One action moves a node along the diagram. -/
theorem reaches_step (g : State) (e : Enactment) (node_id : Text) :
    Reaches (statusOf g node_id) (statusOf (step g e) node_id) := by
  by_cases hadmits : ∃ config, Admits node_id config g e
  · obtain ⟨config, hadmits⟩ := hadmits
    rw [status_admits hadmits]
    obtain ⟨-, args, info, -, -, hinfo, hpending, -⟩ := hadmits
    refine .inr (.inl ⟨by rw [statusOf, hinfo, Option.map_some, hpending], .inr ?_⟩)
    rw [admitted]
    split
    · exact .inl rfl
    · exact .inr rfl
  by_cases hdismisses : ∃ config, Dismisses node_id config g e
  · obtain ⟨config, hdismisses⟩ := hdismisses
    rw [status_dismisses hdismisses]
    cases hstatus : statusOf g node_id with
    | none => exact .inl rfl
    | some status =>
      rw [Option.bind_some, dismissal]
      split
      · next hpending => exact .inr (.inl ⟨by rw [hpending], .inl rfl⟩)
      · refine .inr (.inr ⟨by simp, ?_⟩)
        rw [dismissed]
        split
        · exact .inl rfl
        · exact .inr rfl
  · exact .inl (status_other (fun config h => hadmits ⟨config, h⟩)
      fun config h => hdismisses ⟨config, h⟩)

/-- In every run of enacted actions every node keeps to the diagram: none appears, only a
pending one is admitted or forgotten, and one that is removed does not come back. -/
theorem reaches_run (g : State) (es : List Enactment) (node_id : Text) :
    Reaches (statusOf g node_id) (statusOf (Runs.run step g es) node_id) := by
  refine Runs.run_preserves
    (I := fun s : State => Reaches (statusOf g node_id) (statusOf s node_id)) ?_ (.inl rfl) es
  intro g' e hg'
  exact hg'.trans (reaches_step g' e node_id)

/-- The action makes the node trusted. -/
def Trusts (node_id : Text) (g : State) (e : Enactment) : Prop :=
  ∃ config, Admits node_id config g e ∧
    config.reconfiguration_type ≠ some (text "TwoTransaction")

/-- The action removes the node. -/
def Removes (node_id : Text) (g : State) (e : Enactment) : Prop :=
  ∃ config, Dismisses node_id config g e

theorem admitted_eq_trusted_iff (config : ServiceConfig) :
    admitted config = .trusted ↔
      config.reconfiguration_type ≠ some (text "TwoTransaction") := by
  rw [admitted]
  split
  · next h => simp [h]
  · next h => simp [h]

theorem dismissal_ne_trusted (config : ServiceConfig) (status : NodeStatus) :
    dismissal config status ≠ some .trusted := by
  rw [dismissal, dismissed]
  split
  · simp
  · split <;> simp

/-- After an action a node is trusted that the action makes so, or that was and is not
removed. -/
theorem trusted_step (g : State) (e : Enactment) (node_id : Text) :
    statusOf (step g e) node_id = some .trusted ↔ Trusts node_id g e ∨
      statusOf g node_id = some .trusted ∧ ¬ Removes node_id g e := by
  by_cases hadmits : ∃ config, Admits node_id config g e
  · obtain ⟨config, hadmits⟩ := hadmits
    have hpending : statusOf g node_id = some .pending := by
      obtain ⟨-, args, info, -, -, hinfo, hpending, -⟩ := hadmits
      rw [statusOf, hinfo, Option.map_some, hpending]
    rw [status_admits hadmits, Option.some_inj, admitted_eq_trusted_iff, hpending]
    constructor
    · exact fun htype => .inl ⟨config, hadmits, htype⟩
    · rintro (⟨config', hadmits', htype⟩ | ⟨hstatus, -⟩)
      · cases hadmits.1.symm.trans hadmits'.1
        exact htype
      · cases hstatus
  have htrusts : ¬ Trusts node_id g e := fun ⟨config, h, _⟩ => hadmits ⟨config, h⟩
  by_cases hdismisses : ∃ config, Dismisses node_id config g e
  · obtain ⟨config, hdismiss⟩ := hdismisses
    rw [status_dismisses hdismiss]
    apply iff_of_false
    · intro hafter
      obtain ⟨status, -, hstatus⟩ := Option.bind_eq_some_iff.mp hafter
      exact dismissal_ne_trusted config status hstatus
    · rintro (h | ⟨-, h⟩)
      · exact htrusts h
      · exact h ⟨config, hdismiss⟩
  · rw [status_other (fun config h => hadmits ⟨config, h⟩) fun config h => hdismisses ⟨config, h⟩]
    constructor
    · exact fun h => .inr ⟨h, hdismisses⟩
    · rintro (h | ⟨h, -⟩)
      · exact absurd h htrusts
      · exact h

/-- A node that is not trusted yet is trusted after a run exactly when some action of the run
admits it while the configuration is not for two transactions and none after it removes it. -/
theorem trusted_iff_since {g : State} {node_id : Text}
    (h : statusOf g node_id ≠ some .trusted) (es : List Enactment) :
    statusOf (Runs.run step g es) node_id = some .trusted ↔
      Runs.Since step (Trusts node_id) (Removes node_id) g es :=
  Runs.iff_since (I := fun _ => True) (Q := fun s => statusOf s node_id = some .trusted)
    (fun _ _ _ => trivial) (fun s e _ => trusted_step s e node_id) trivial h es

/-! A pending node that a proposal trusts. -/

private def nodeId : Text := List.replicate 64 0x61

private def pendingNode : State :=
  { State.empty with
    service := ⟨some ⟨1, none, none, none, none⟩, none, []⟩
    nodes := { State.empty.nodes with
      info := (∅ : Table NodeInfo).insert nodeId ⟨.pending, none, none, none⟩ } }

private def trustNode : Enactment where
  ccf := .accepting
  proposalId := text "p0"
  name := text "transition_node_to_trusted"
  args := some (.obj [(text "node_id", .str nodeId), (text "valid_from", .str (text "now"))])

/-- The proposal leaves the node trusted. -/
theorem pendingNode_trusted :
    statusOf (Runs.run step pendingNode [trustNode]) nodeId = some .trusted := by
  have hstatus : statusOf pendingNode nodeId = some .pending := by
    simp [statusOf, pendingNode]
  have hvalid : validate trustNode = .ok (.transition_node_to_trusted
      ⟨⟨nodeId, by decide⟩, ⟨text "now", none⟩⟩) := rfl
  refine (trusted_iff_since (by simp [hstatus]) [trustNode]).mpr ⟨[], trustNode, [], rfl, ?_, ?_⟩
  · refine ⟨_, ⟨rfl, _, ⟨.pending, none, none, none⟩, hvalid, rfl, ?_, rfl, ?_⟩, by simp⟩
    · simp [pendingNode]
    · intro csr hcsr
      cases hcsr
  · intro done b hpre
    simp at hpre

end CcfIdentity.Constitution
