import CcfIdentity.Constitution.Checks
import CcfIdentity.Constitution.Tables

/-!
# Proposals

`set_constitution`, `samples/logapp/constitution/actions.js:323–338`, and what it and
`add_node_code` do to the proposals still open, `:140–152`.
-/

open Utf16

namespace CcfIdentity.Constitution

/-- Lines 140–152. -/
def invalidateOtherOpenProposals (proposalIdToRetain : Text) : Program Fault Proposals Unit := do
  let p ← .read id
  .forEach (fun (proposalId, state) =>
    if proposalId ≠ proposalIdToRetain ∧ state = .opened then
      .write fun p => { p with proposals_info := p.proposals_info.insert proposalId .dropped }
    else pure ()) p.proposals_info.toList

/-- Lines 325–327. The check names no field. -/
def validateSetConstitution (args : Option Json) : Except Fault Text := do
  checkType .string (← field args "constitution") (lit "undefined")

/-- Lines 328–336. -/
def setConstitution (constitution proposalId : Text) : Program Fault Proposals Unit := do
  .write fun p => { p with constitution := some constitution }
  invalidateOtherOpenProposals proposalId

/-! ### What becomes of the proposals -/

/-- What is made of a proposal when another is retained. -/
def ProposalState.superseded (state : ProposalState) : ProposalState :=
  if state = .opened then .dropped else state

/-- The visits of the proposals, as one change of the table after another. -/
def Proposals.dropOthers (proposalIdToRetain : Text) (entries : List (Text × ProposalState))
    (p : Proposals) : Proposals :=
  entries.foldl (fun p entry =>
    if entry.1 ≠ proposalIdToRetain ∧ entry.2 = .opened then
      { p with proposals_info := p.proposals_info.insert entry.1 .dropped }
    else p) p

theorem invalidateOtherOpenProposals_apply (proposalIdToRetain : Text) (p : Proposals) :
    invalidateOtherOpenProposals proposalIdToRetain p =
      (.ok (), p.dropOthers proposalIdToRetain p.proposals_info.toList) := by
  rw [invalidateOtherOpenProposals, Program.read_bind, id_eq, Proposals.dropOthers,
    ← Program.forEach_write_if]

/-- The visits drop the open proposals they come to, but for the one that is retained. -/
theorem getElem?_dropOthers (proposalIdToRetain : Text) (entries : List (Text × ProposalState))
    (p : Proposals) (id : Text) :
    (p.dropOthers proposalIdToRetain entries).proposals_info[id]? =
      if id ≠ proposalIdToRetain ∧ (id, .opened) ∈ entries then some .dropped
      else p.proposals_info[id]? := by
  induction entries generalizing p with
  | nil => simp [Proposals.dropOthers]
  | cons entry rest ih =>
    rcases entry with ⟨other, state⟩
    rw [Proposals.dropOthers, List.foldl_cons, ← Proposals.dropOthers]
    by_cases hdrops : other ≠ proposalIdToRetain ∧ state = .opened
    · rw [if_pos hdrops, ih, Table.getElem?_set]
      obtain ⟨hother, rfl⟩ := hdrops
      by_cases hid : other = id
      · subst hid
        simp [hother]
      · simp [hid, Ne.symm hid]
    · have hkept : ¬ (id ≠ proposalIdToRetain ∧ (id, .opened) = (other, state)) := by
        rintro ⟨hid, heq⟩
        cases heq
        exact hdrops ⟨hid, rfl⟩
      rw [if_neg hdrops, ih]
      simp only [List.mem_cons, and_or_left, hkept, false_or]

/-- Another proposal's open proposals are dropped, and nothing else changes. -/
theorem getElem?_invalidate (proposalIdToRetain : Text) (p : Proposals) (id : Text) :
    (p.dropOthers proposalIdToRetain p.proposals_info.toList).proposals_info[id]? =
      if id ≠ proposalIdToRetain then p.proposals_info[id]?.map ProposalState.superseded
      else p.proposals_info[id]? := by
  simp only [getElem?_dropOthers, Std.ExtTreeMap.mem_toList_iff_getElem?_eq_some]
  by_cases hid : id ≠ proposalIdToRetain
  · rw [if_pos hid]
    cases hstate : p.proposals_info[id]? with
    | none => simp
    | some state =>
      by_cases hopened : state = .opened
      · simp [hid, hopened, ProposalState.superseded]
      · simp [hopened, ProposalState.superseded]
  · simp [hid]

end CcfIdentity.Constitution
