import CcfIdentity.Constitution.Steps

/-!
# Superseded proposals

Proposals still open were made and voted on under the constitution and for the code of their
day. A proposal that changes either drops all others that are open when it is enacted, and
nothing else the actions do changes the state of a proposal.
-/

open Utf16

namespace CcfIdentity.Constitution

/-- The state the tables have for a proposal. -/
def proposalState (g : State) (id : Text) : Option ProposalState :=
  g.proposals.proposals_info[id]?

/-- The action drops the open proposals but its own. -/
def Drops (e : Enactment) : Prop :=
  (∃ constitution, validate e = .ok (.set_constitution constitution)) ∨
    ∃ code_id, validate e = .ok (.add_node_code code_id)

/-- The action belongs to another proposal and drops this one if it is open. -/
def Supersedes (id : Text) (e : Enactment) : Prop := id ≠ e.proposalId ∧ Drops e

/-- What is made of the proposals by an action that drops them. -/
theorem proposalState_drops {e : Enactment} (h : Drops e) (g : State) (id : Text) :
    proposalState (step g e) id = if id ≠ e.proposalId then
      (proposalState g id).map ProposalState.superseded else proposalState g id := by
  rcases h with ⟨constitution, hvalid⟩ | ⟨code_id, hvalid⟩
  · have hset : setConstitution constitution e.proposalId g.proposals = (.ok (), _) :=
      invalidateOtherOpenProposals_apply e.proposalId
        { g.proposals with constitution := some constitution }
    rw [step_returns hvalid (onProposals_eq_ok.mpr ⟨_, hset, rfl⟩)]
    exact getElem?_invalidate e.proposalId _ id
  · have hproposals := invalidateOtherOpenProposals_apply e.proposalId g.proposals
    have happly : apply e.ccf e.proposalId g (.add_node_code code_id) g = (.ok (), _) :=
      Program.bind_eq_ok.mpr ⟨(), _, onNodes_eq_ok.mpr ⟨_, rfl, rfl⟩,
        onProposals_eq_ok.mpr ⟨_, hproposals, rfl⟩⟩
    rw [step_returns hvalid happly]
    exact getElem?_invalidate e.proposalId _ id

/-- An action that supersedes a proposal drops it if it is open. -/
theorem proposalState_superseded {e : Enactment} {id : Text} (h : Supersedes id e) (g : State) :
    proposalState (step g e) id = (proposalState g id).map ProposalState.superseded := by
  rw [proposalState_drops h.2, if_pos h.1]

/-- Every other action leaves the proposal as it is. -/
theorem proposalState_kept {e : Enactment} {id : Text} (h : ¬ Supersedes id e) (g : State) :
    proposalState (step g e) id = proposalState g id := by
  by_cases hdrops : Drops e
  · rw [proposalState_drops hdrops, if_neg fun hid => h ⟨hid, hdrops⟩]
  · have hframe : Same g (step g e) .proposals := by
      refine step_frame g fun action haction hwrites => ?_
      cases action with
      | set_constitution constitution => exact hdrops (.inl ⟨constitution, haction⟩)
      | add_node_code code_id => exact hdrops (.inr ⟨code_id, haction⟩)
      | _ => simp [Action.writes] at hwrites
    rw [proposalState, proposalState, hframe]

/-! ### Runs -/

/-- A run without an action that supersedes the proposal leaves it as it is. -/
theorem proposalState_run_kept {es : List Enactment} {id : Text}
    (h : ∀ e ∈ es, ¬ Supersedes id e) (g : State) :
    proposalState (Runs.run step g es) id = proposalState g id :=
  Runs.run_preserves_of (I := fun s : State => proposalState s id = proposalState g id)
    (fun e he s hs => (proposalState_kept (h e he) s).trans hs) rfl

/-- A run with such an action drops it if it is open. -/
theorem proposalState_run_superseded {es : List Enactment} {id : Text}
    (h : ∃ e ∈ es, Supersedes id e) (g : State) :
    proposalState (Runs.run step g es) id = (proposalState g id).map ProposalState.superseded := by
  induction es generalizing g with
  | nil => simp at h
  | cons e rest ih =>
    rw [Runs.run_cons]
    by_cases hrest : ∃ e ∈ rest, Supersedes id e
    · rw [ih hrest]
      by_cases he : Supersedes id e
      · rw [proposalState_superseded he, Option.map_map]
        congr 1
        funext state
        cases state <;> rfl
      · rw [proposalState_kept he]
    · have he : Supersedes id e := by
        obtain ⟨e', he', hsupersedes⟩ := h
        rcases List.mem_cons.mp he' with rfl | he'
        · exact hsupersedes
        · exact absurd ⟨e', he', hsupersedes⟩ hrest
      rw [proposalState_run_kept (fun e' he' hs => hrest ⟨e', he', hs⟩),
        proposalState_superseded he]

/-- After a run of enacted actions a proposal is open if it was before and no other proposal
of the run has set the constitution or added code, it is dropped if it was before or if one
has, and in any other state it stays. -/
theorem proposals_run (g : State) (es : List Enactment) (id : Text) :
    (proposalState (Runs.run step g es) id = some .opened ↔
      proposalState g id = some .opened ∧ ∀ e ∈ es, ¬ Supersedes id e) ∧
    (proposalState (Runs.run step g es) id = some .dropped ↔
      proposalState g id = some .dropped ∨
        proposalState g id = some .opened ∧ ∃ e ∈ es, Supersedes id e) ∧
    ∀ name, proposalState (Runs.run step g es) id = some (.other name) ↔
      proposalState g id = some (.other name) := by
  by_cases hsupersedes : ∃ e ∈ es, Supersedes id e
  · have hnot : ¬ ∀ e ∈ es, ¬ Supersedes id e := fun hall =>
      hsupersedes.elim fun e he => hall e he.1 he.2
    rw [proposalState_run_superseded hsupersedes]
    rcases proposalState g id with _ | _ | _ | other <;>
      simp [ProposalState.superseded, hsupersedes, hnot]
  · have hall : ∀ e ∈ es, ¬ Supersedes id e := fun e he hs => hsupersedes ⟨e, he, hs⟩
    rw [proposalState_run_kept hall]
    simp only [hsupersedes, and_false, or_false, iff_self, implies_true, and_true]
    exact iff_of_eq (and_iff_left hall).symm.eq

end CcfIdentity.Constitution
