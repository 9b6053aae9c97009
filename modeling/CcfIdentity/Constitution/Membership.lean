import CcfIdentity.Constitution.Recovery

/-!
# Members of the consortium

Which members a run of enacted actions leaves. A member has a certificate, information and
an acknowledgement or none of them, and it is there exactly when some action of the run sets
it and none after it removes it. A removal that the service cannot afford throws and removes
nobody.
-/

open Utf16

namespace CcfIdentity.Constitution

/-- The tables of members have the same members, and keys for no others. -/
def Aligned (m : Members) : Prop :=
  ∀ id, (id ∈ m.certs ↔ id ∈ m.info) ∧ (id ∈ m.acks ↔ id ∈ m.info) ∧
    (id ∈ m.encryption_public_keys → id ∈ m.info)

/-- Recording a member keeps the tables aligned. -/
theorem aligned_setMember {ccf : Ccf} {signature : Option Json} {args : SetMember}
    {m m' : Members} (h : Aligned m) (hm : setMember ccf signature args m = (.ok (), m')) :
    Aligned m' := by
  obtain ⟨id, -, cert, -, key, -, ack, -, rfl⟩ := setMember_eq_ok.mp hm
  intro other
  obtain ⟨hcerts, hacks, hkeys⟩ := h other
  by_cases hother : id = other
  · simp [hother]
  · cases key with
    | none =>
      simp only [Option.elim_none, Table.mem_set, Table.mem_delete, hother, false_or]
      exact ⟨hcerts, hacks, fun hkey => hkeys hkey.2⟩
    | some key =>
      simp only [Option.elim_some, Table.mem_set, hother, false_or]
      exact ⟨hcerts, hacks, hkeys⟩

/-- Forgetting a member keeps the tables aligned. -/
theorem aligned_forget {m : Members} (h : Aligned m) (id : Text) (calls : List Call) :
    Aligned { m.forget id with calls } := by
  intro other
  obtain ⟨hcerts, hacks, hkeys⟩ := h other
  by_cases hother : id = other
  · simp [Members.forget, hother]
  · simp only [Members.forget, Table.mem_delete, ne_eq, hother, not_false_eq_true, true_and]
    exact ⟨hcerts, hacks, hkeys⟩

/-- Writing the data of a member adds none. -/
theorem info_setMemberData {m : Members} {id : Text} {info : MemberInfo}
    (hinfo : m.info[id]? = some info) (member_data : Json) (other : Text) :
    other ∈ m.info.insert id { info with member_data := some member_data } ↔
      other ∈ m.info := by
  rw [Table.mem_set]
  constructor
  · rintro (rfl | hother)
    · exact (Table.contains_iff _ _).mpr ⟨info, hinfo⟩
    · exact hother
  · exact .inr

/-- A member's data are written for members only. -/
theorem aligned_setMemberData {args : SetMemberData} {m m' : Members} (h : Aligned m)
    (hm : setMemberData args m = (.ok (), m')) : Aligned m' := by
  obtain ⟨info, hinfo, rfl⟩ := setMemberData_ok hm
  intro other
  obtain ⟨hcerts, hacks, hkeys⟩ := h other
  have hsame := info_setMemberData hinfo args.member_data.stored other
  exact ⟨hcerts.trans hsame.symm, hacks.trans hsame.symm, fun hkey => hsame.mpr (hkeys hkey)⟩

/-- An enacted action keeps the tables aligned. -/
theorem aligned_step (g : State) (e : Enactment) (h : Aligned g.members) :
    Aligned (step g e).members := by
  rcases members_step_cases g e with hsame | ⟨args, -, hm⟩ | ⟨member_id, -, hm⟩ | ⟨args, hm⟩
  · rwa [hsame]
  · exact aligned_setMember h hm
  · rcases removeMember_eq_ok.mp hm with ⟨-, hsame⟩ | ⟨-, -, hafter⟩
    · rwa [← hsame]
    · rw [← hafter]
      exact aligned_forget h member_id.val _
  · exact aligned_setMemberData h hm

/-- After every run of enacted actions a member has a certificate, information and an
acknowledgement or none of them, and an encryption key only with them. -/
theorem aligned_run {g : State} (h : Aligned g.members) (es : List Enactment) :
    Aligned (Runs.run step g es).members :=
  Runs.run_preserves (I := fun g : State => Aligned g.members) aligned_step h es

/-! A member of an empty consortium. -/

private def newMember : Enactment where
  ccf := .accepting
  proposalId := text "p0"
  name := text "set_member"
  args := some (.obj [(text "cert", .str (text "m0"))])

/-- The tables are aligned once the member is set. -/
theorem newMember_aligned : Aligned (Runs.run step State.empty [newMember]).members :=
  aligned_run (fun id => by simp [State.empty]) [newMember]

/-! ### Who is a member -/

/-- The action removes the member. One that is an active recovery member is removed only if
another is left to spare and the node rekeys the ledger. -/
def RemovesMember (id : Text) (g : State) (e : Enactment) : Prop :=
  ∃ member_id : EntityId, validate e = .ok (.remove_member member_id) ∧ member_id.val = id ∧
    (id ∈ recoveryMembers g.members →
      (∃ config, g.service.config = some config ∧
        config.recovery_threshold < (recoveryMembers g.members).card) ∧
      e.ccf.answer .triggerLedgerRekey = .ok ())

/-- The check of the members that remain asks for one to spare. -/
theorem checkRemainingMembers_eq_ok {config : Option ServiceConfig} {m : Members}
    (h : Informed m) : checkRemainingMembers config m = .ok () ↔
      ∃ c, config = some c ∧ c.recovery_threshold < (recoveryMembers m).card := by
  cases config with
  | none => simp [checkRemainingMembers]
  | some c =>
    rw [checkRemainingMembers, getActiveRecoveryMembersCount_eq h]
    simp only [Option.some_inj, exists_eq_left']
    constructor
    · intro hok
      have hspare := not_lt.mp (refuseIf_eq_ok.mp hok)
      omega
    · intro hlt
      refine refuseIf_eq_ok.mpr (not_lt.mpr ?_)
      omega

/-- An action that sets a member adds it. -/
theorem info_setsMember {g : State} {e : Enactment} {id : Text} (h : SetsMember id g e)
    (other : Text) :
    other ∈ (step g e).members.info ↔ id = other ∨ other ∈ g.members.info := by
  obtain ⟨args, hvalid, hid, ⟨cert, hcert⟩, ⟨key, hkey⟩, ack, hack⟩ := h
  obtain ⟨m', hset⟩ : ∃ m', setMember e.ccf g.signature args g.members = (.ok (), m') :=
    ⟨_, setMember_eq_ok.mpr ⟨id, hid, cert, hcert, key, hkey, ack, hack, Eq.refl _⟩⟩
  obtain ⟨id', hid', cert', -, key', -, ack', -, hafter⟩ := setMember_eq_ok.mp hset
  cases hid.symm.trans hid'
  have hstep : step g e = { g with members := m' } :=
    step_returns hvalid (onMembers_eq_ok.mpr ⟨m', hset, rfl⟩)
  rw [hstep, ← hafter]
  simp

/-- An action that removes a member takes it out. -/
theorem info_removesMember {g : State} {e : Enactment} {id : Text} (hg : Informed g.members)
    (h : RemovesMember id g e) (other : Text) :
    other ∈ (step g e).members.info ↔ other ∈ g.members.info ∧ id ≠ other := by
  obtain ⟨member_id, hvalid, rfl, hspare⟩ := h
  by_cases hmem : member_id.val ∈ g.members.info
  · obtain ⟨m', hm, hafter⟩ : ∃ m', removeMember e.ccf g.service.config member_id g.members =
        (.ok (), m') ∧ m'.info = g.members.info.erase member_id.val := by
      refine ⟨_, removeMember_eq_ok.mpr (.inr ⟨hmem, fun hactive => ?_, rfl⟩), rfl⟩
      exact ⟨(checkRemainingMembers_eq_ok hg).mpr (hspare hactive).1, (hspare hactive).2⟩
    rw [step_returns hvalid (onMembers_eq_ok.mpr ⟨m', hm, rfl⟩), hafter, Table.mem_delete]
    exact and_comm
  · have hm : removeMember e.ccf g.service.config member_id g.members = (.ok (), g.members) :=
      removeMember_eq_ok.mpr (.inl ⟨hmem, rfl⟩)
    rw [step_returns hvalid (onMembers_eq_ok.mpr ⟨_, hm, rfl⟩)]
    exact ⟨fun hother => ⟨hother, fun heq => hmem (heq ▸ hother)⟩, And.left⟩

/-- Every other action leaves the members who they are. -/
theorem info_other {g : State} {e : Enactment} (hg : Informed g.members)
    (hsets : ∀ id, ¬ SetsMember id g e) (hremoves : ∀ id, ¬ RemovesMember id g e)
    (other : Text) : other ∈ (step g e).members.info ↔ other ∈ g.members.info := by
  rcases members_step_cases g e with hsame | ⟨args, hvalid, hm⟩ | ⟨member_id, hvalid, hm⟩ |
    ⟨args, hm⟩
  · rw [hsame]
  · obtain ⟨id, hid, cert, hcert, key, hkey, ack, hack, -⟩ := setMember_eq_ok.mp hm
    exact absurd ⟨args, hvalid, hid, ⟨cert, hcert⟩, ⟨key, hkey⟩, ack, hack⟩ (hsets id)
  · rcases removeMember_eq_ok.mp hm with ⟨-, hsame⟩ | ⟨-, hspare, -⟩
    · rw [← hsame]
    · refine absurd ⟨member_id, hvalid, rfl, fun hactive => ?_⟩ (hremoves member_id.val)
      exact ⟨(checkRemainingMembers_eq_ok hg).mp (hspare hactive).1, (hspare hactive).2⟩
  · obtain ⟨info, hinfo, hafter⟩ := setMemberData_ok hm
    rw [hafter]
    exact info_setMemberData hinfo args.member_data.stored other

/-- After an action a member is there that it sets, or that was and is not removed. -/
theorem member_step {g : State} (hg : Informed g.members) (e : Enactment) (id : Text) :
    id ∈ (step g e).members.info ↔
      SetsMember id g e ∨ id ∈ g.members.info ∧ ¬ RemovesMember id g e := by
  by_cases hsets : ∃ other, SetsMember other g e
  · obtain ⟨other, hset⟩ := hsets
    have hnot : ¬ RemovesMember id g e := by
      rintro ⟨member_id, hvalid, -⟩
      obtain ⟨args, hvalid', -⟩ := hset
      cases hvalid.symm.trans hvalid'
    rw [info_setsMember hset]
    constructor
    · rintro (rfl | hid)
      · exact .inl hset
      · exact .inr ⟨hid, hnot⟩
    · rintro (hself | ⟨hid, -⟩)
      · exact .inl (setsMember_unique hset hself)
      · exact .inr hid
  by_cases hremoves : ∃ other, RemovesMember other g e
  · obtain ⟨other, hremove⟩ := hremoves
    have hself : RemovesMember id g e ↔ other = id := by
      constructor
      · rintro ⟨member_id, hvalid, hid, -⟩
        obtain ⟨member_id', hvalid', hother, -⟩ := hremove
        cases hvalid.symm.trans hvalid'
        exact hother.symm.trans hid
      · rintro rfl
        exact hremove
    rw [info_removesMember hg hremove, hself]
    exact ⟨.inr, fun h => h.resolve_left fun hset => hsets ⟨id, hset⟩⟩
  · rw [info_other hg (fun other h => hsets ⟨other, h⟩) fun other h => hremoves ⟨other, h⟩]
    constructor
    · exact fun hid => .inr ⟨hid, fun h => hremoves ⟨id, h⟩⟩
    · rintro (h | ⟨hid, -⟩)
      · exact absurd ⟨id, h⟩ hsets
      · exact hid

/-- Someone the tables do not have is a member after a run of enacted actions exactly when
some action of the run sets the member and none after it removes it. -/
theorem member_iff_since {g : State} (hg : Informed g.members) {id : Text}
    (hnot : id ∉ g.members.info) (es : List Enactment) :
    id ∈ (Runs.run step g es).members.info ↔
      Runs.Since step (SetsMember id) (RemovesMember id) g es :=
  Runs.iff_since (I := fun g : State => Informed g.members)
    (Q := fun g : State => id ∈ g.members.info) informed_step
    (fun _ e hs => member_step hs e id) hg hnot es

/-- A member that is set is there. -/
theorem newMember_there :
    text "m0" ∈ (Runs.run step State.empty [newMember]).members.info := by
  have hsets : SetsMember (text "m0") State.empty newMember :=
    ⟨⟨some (.str (text "m0")), none, none⟩, rfl, rfl, ⟨_, rfl⟩, ⟨_, rfl⟩, _, rfl⟩
  have hinformed : Informed State.empty.members := fun id hid => by
    simp [State.empty] at hid
  refine (member_iff_since hinformed (by simp [State.empty]) [newMember]).mpr
    ⟨[], newMember, [], rfl, hsets, ?_⟩
  intro done b hpre
  simp at hpre

end CcfIdentity.Constitution
