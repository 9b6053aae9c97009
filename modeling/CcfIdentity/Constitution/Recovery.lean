import CcfIdentity.Constitution.Configuration
import Mathlib.Data.Finset.Card

/-!
# Recovery of an open service

An open service is recoverable while its active recovery members, whose shares recover it,
are at least as many as its threshold. Removing a member and raising the threshold are
checked against this count. Setting a member that exists already is not: it makes the member
one that has yet to acknowledge, and nothing else can take an open service below its
threshold. Whether a service may be opened is for the node to check.
-/

open Utf16

namespace CcfIdentity.Constitution

/-- Every recovery member has information. -/
def Informed (m : Members) : Prop :=
  ∀ id, id ∈ m.encryption_public_keys → ∃ info, m.info[id]? = some info

/-- The active recovery members. -/
def recoveryMembers (m : Members) : Finset Text :=
  (m.encryption_public_keys.keys.filter fun id =>
    m.info[id]?.map MemberInfo.status = some .active).toFinset

theorem mem_recoveryMembers {m : Members} {id : Text} :
    id ∈ recoveryMembers m ↔ id ∈ m.encryption_public_keys ∧
      m.info[id]?.map MemberInfo.status = some .active := by
  rw [recoveryMembers, List.mem_toFinset, List.mem_filter, Std.ExtTreeMap.mem_keys,
    decide_eq_true_eq]

private theorem foldlM_countIfActive (m : Members) {ids : List Text}
    (h : ∀ id ∈ ids, ∃ info, m.info[id]? = some info) (count : Int) :
    ids.foldlM (countIfActive m) count = .ok (count +
      (ids.filter fun id => m.info[id]?.map MemberInfo.status = some .active).length) := by
  induction ids generalizing count with
  | nil => simp [pure, Except.pure]
  | cons id rest ih =>
    obtain ⟨info, hinfo⟩ := h id List.mem_cons_self
    have hrest := ih fun other hother => h other (List.mem_cons_of_mem _ hother)
    rw [List.foldlM_cons, countIfActive, hinfo]
    by_cases hactive : info.status = .active
    · simp [bind, Except.bind, hrest, hinfo, hactive]
      omega
    · simp [bind, Except.bind, hrest, hinfo, hactive]

/-- The count of the source is the number of active recovery members. -/
theorem getActiveRecoveryMembersCount_eq {m : Members} (h : Informed m) :
    getActiveRecoveryMembersCount m = .ok ((recoveryMembers m).card : Int) := by
  rw [getActiveRecoveryMembersCount, foldlM_countIfActive m fun id hid =>
    h id (Std.ExtTreeMap.mem_keys.mp hid), recoveryMembers,
    List.toFinset_card_of_nodup (Std.ExtTreeMap.nodup_keys.filter _), zero_add]

/-- The count returns only where every recovery member has information. -/
theorem informed_of_count {m : Members} {count : Int}
    (h : getActiveRecoveryMembersCount m = .ok count) : Informed m := by
  have hinfo : ∀ (ids : List Text) (start : Int), ids.foldlM (countIfActive m) start = .ok count →
      ∀ id ∈ ids, ∃ info, m.info[id]? = some info := by
    intro ids
    induction ids with
    | nil => exact fun _ _ _ hid => by cases hid
    | cons first rest ih =>
      intro start hcount
      rw [List.foldlM_cons] at hcount
      obtain ⟨next, hfirst, hrest⟩ := Program.except_bind_eq_ok.mp hcount
      refine List.forall_mem_cons.mpr ⟨?_, ih next hrest⟩
      rw [countIfActive] at hfirst
      split at hfirst
      · cases hfirst
      · next info hinfo => exact ⟨info, hinfo⟩
  exact fun id hid => hinfo _ 0 h id (Std.ExtTreeMap.mem_keys.mpr hid)

/-- Where the count returns, it is the number of active recovery members. -/
theorem count_of_ok {m : Members} {count : Int}
    (h : getActiveRecoveryMembersCount m = .ok count) : count = (recoveryMembers m).card := by
  have hcount := getActiveRecoveryMembersCount_eq (informed_of_count h)
  exact Except.ok.inj (h.symm.trans hcount)

/-- `remove_member` returns where there is no such member, or where the members that remain
are enough if it is an active recovery member, and then it forgets the member. -/
theorem removeMember_eq_ok {ccf : Ccf} {config : Option ServiceConfig} {member_id : EntityId}
    {m m' : Members} :
    removeMember ccf config member_id m = (.ok (), m') ↔
      member_id.val ∉ m.info ∧ m = m' ∨
      member_id.val ∈ m.info ∧
        (member_id.val ∈ recoveryMembers m →
          checkRemainingMembers config m = .ok () ∧ ccf.answer .triggerLedgerRekey = .ok ()) ∧
        { m.forget member_id.val with calls := m.calls ++
          if member_id.val ∈ recoveryMembers m then [.triggerLedgerRekey] else [] } = m' := by
  rw [removeMember, Program.read_bind, id_eq]
  cases hinfo : m.info[member_id.val]? with
  | none =>
    have hnot : member_id.val ∉ m.info := by
      intro hin
      obtain ⟨info, hsome⟩ := (Table.contains_iff m.info member_id.val).mp hin
      cases hinfo.symm.trans hsome
    simp [hnot]
  | some info =>
    have hin : member_id.val ∈ m.info := (Table.contains_iff _ _).mpr ⟨info, hinfo⟩
    have hmem : info.status = .active ∧ m.encryption_public_keys.contains member_id.val = true ↔
        member_id.val ∈ recoveryMembers m := by
      rw [mem_recoveryMembers, hinfo, and_comm, Option.map_some, Option.some_inj]
      rfl
    simp only [hmem, hin, not_true_eq_false, false_and, false_or, true_and]
    by_cases hactive : member_id.val ∈ recoveryMembers m
    · simp only [hactive, ↓reduceIte, Program.check_bind_eq_ok, Program.write_bind,
        Program.check_eq_ok, true_implies, and_assoc]
      constructor
      · rintro ⟨u, hcheck, hrekey, hafter⟩
        exact ⟨hcheck, hrekey, hafter⟩
      · rintro ⟨hcheck, hrekey, hafter⟩
        exact ⟨(), hcheck, hrekey, hafter⟩
    · simp only [hactive, ↓reduceIte, Program.write_bind, Program.pure_apply, Prod.mk.injEq,
        true_and, false_implies, List.append_nil]
      rfl

/-- What an edit of one member leaves of the recovery members. -/
theorem recoveryMembers_edit {m m' : Members} {id : Text}
    (hkeys : ∀ other, other ≠ id → (other ∈ m'.encryption_public_keys ↔
      other ∈ m.encryption_public_keys))
    (hinfo : ∀ other, other ≠ id → m'.info[other]? = m.info[other]?)
    (hid : id ∉ recoveryMembers m') : recoveryMembers m' = (recoveryMembers m).erase id := by
  ext other
  by_cases hother : other = id
  · subst hother
    simp [hid]
  · rw [Finset.mem_erase, mem_recoveryMembers, mem_recoveryMembers, hkeys other hother,
      hinfo other hother]
    exact (and_iff_right hother).symm

/-- A member that is set is no active recovery member. -/
theorem recoveryMembers_setMember {ccf : Ccf} {signature : Option Json} {args : SetMember}
    {m m' : Members} {id : Text} (hid : ccf.pemToId args.cert = .ok id)
    (h : setMember ccf signature args m = (.ok (), m')) :
    recoveryMembers m' = (recoveryMembers m).erase id := by
  obtain ⟨id', hid', cert, -, key, -, ack, -, rfl⟩ := setMember_eq_ok.mp h
  cases hid.symm.trans hid'
  refine recoveryMembers_edit ?_ ?_ ?_
  · intro other hother
    cases key <;> simp [Ne.symm hother]
  · intro other hother
    simp [Table.getElem?_set, Ne.symm hother]
  · simp [mem_recoveryMembers]

/-- A member that is forgotten is no recovery member. -/
theorem recoveryMembers_forget (m : Members) (id : Text) (calls : List Call) :
    recoveryMembers { m.forget id with calls } = (recoveryMembers m).erase id := by
  refine recoveryMembers_edit ?_ ?_ ?_
  · intro other hother
    simp [Members.forget, Ne.symm hother]
  · intro other hother
    simp [Members.forget, Table.getElem?_delete, Ne.symm hother]
  · simp [mem_recoveryMembers, Members.forget]

/-- A member's data do not make it a recovery member. -/
theorem recoveryMembers_setMemberData {args : SetMemberData} {m m' : Members}
    (h : setMemberData args m = (.ok (), m')) : recoveryMembers m' = recoveryMembers m := by
  obtain ⟨info, hinfo, rfl⟩ := setMemberData_ok h
  ext id
  rw [mem_recoveryMembers, mem_recoveryMembers, Table.getElem?_set]
  by_cases hid : args.member_id.val = id
  · subst hid
    simp [hinfo]
  · simp [hid]

/-! ### One action -/

/-- Enough active recovery members to recover the service, if it is open. -/
def Recoverable (g : State) : Prop :=
  g.service.status = some .opened → ∀ config, g.service.config = some config →
    config.recovery_threshold ≤ (recoveryMembers g.members).card

/-- The action records a member, new or not, under the identifier. -/
def SetsMember (id : Text) (g : State) (e : Enactment) : Prop :=
  ∃ args, validate e = .ok (.set_member args) ∧ e.ccf.pemToId args.cert = .ok id ∧
    (∃ cert, e.ccf.strToBuf args.cert = .ok cert) ∧
    (∃ key, keyBuf e.ccf args.encryption_pub_key = .ok key) ∧
    ∃ ack, ackBuf e.ccf g.signature = .ok ack

/-- The action sets one member. -/
theorem setsMember_unique {g : State} {e : Enactment} {id other : Text}
    (h : SetsMember id g e) (hother : SetsMember other g e) : id = other := by
  obtain ⟨args, hvalid, hid, -⟩ := h
  obtain ⟨args', hvalid', hid', -⟩ := hother
  cases hvalid.symm.trans hvalid'
  exact Except.ok.inj (hid.symm.trans hid')

/-- The action does not set an active recovery member an open service depends on. -/
def SparesRecovery (g : State) (e : Enactment) : Prop :=
  ∀ id, SetsMember id g e → id ∈ recoveryMembers g.members → g.service.status = some .opened →
    ∀ config, g.service.config = some config →
      config.recovery_threshold < (recoveryMembers g.members).card

/-- If the action has the service opened, there are enough active recovery members. -/
def OpensOnEnough (g : State) (e : Enactment) : Prop :=
  ∀ s', Opens g e s' → s'.status = some .opened → ∀ config, g.service.config = some config →
    config.recovery_threshold ≤ (recoveryMembers g.members).card

theorem recoverable_congr {g g' : State}
    (hmembers : recoveryMembers g'.members = recoveryMembers g.members)
    (hservice : g'.service.rules = g.service.rules) : Recoverable g' ↔ Recoverable g := by
  obtain ⟨hconfig, hstatus⟩ := Prod.mk.inj hservice
  rw [Recoverable, Recoverable, hmembers, hconfig, hstatus]

/-! ### Every step -/

private theorem informed_edit {m m' : Members} (h : Informed m) (id : Text)
    (hkeys : ∀ other, other ≠ id → other ∈ m'.encryption_public_keys →
      other ∈ m.encryption_public_keys)
    (hinfo : ∀ other, other ≠ id → m'.info[other]? = m.info[other]?)
    (hid : id ∈ m'.encryption_public_keys → ∃ info, m'.info[id]? = some info) :
    Informed m' := by
  intro other hother
  by_cases heq : other = id
  · subst heq
    exact hid hother
  · rw [hinfo other heq]
    exact h other (hkeys other heq hother)

/-- The actions that write the members, where one returns. -/
theorem members_step_cases (g : State) (e : Enactment) :
    (step g e).members = g.members ∨
      (∃ args, validate e = .ok (.set_member args) ∧
        setMember e.ccf g.signature args g.members = (.ok (), (step g e).members)) ∨
      (∃ id, validate e = .ok (.remove_member id) ∧
        removeMember e.ccf g.service.config id g.members = (.ok (), (step g e).members)) ∨
      ∃ args, setMemberData args g.members = (.ok (), (step g e).members) := by
  rcases step_cases g e with hsame | ⟨action, hvalid, happly⟩
  · exact .inl (by rw [hsame])
  cases action with
  | set_member args =>
    obtain ⟨m', hm, hg⟩ := onMembers_eq_ok.mp happly
    rw [← hg]
    exact .inr (.inl ⟨args, hvalid, hm⟩)
  | remove_member id =>
    obtain ⟨m', hm, hg⟩ := onMembers_eq_ok.mp happly
    rw [← hg]
    exact .inr (.inr (.inl ⟨id, hvalid, hm⟩))
  | set_member_data args =>
    obtain ⟨m', hm, hg⟩ := onMembers_eq_ok.mp happly
    rw [← hg]
    exact .inr (.inr (.inr ⟨args, hm⟩))
  | _ => exact .inl (frame_of_ok happly .members (by simp [Action.writes]))

/-- The actions keep every recovery member informed of. -/
theorem informed_step (g : State) (e : Enactment) (h : Informed g.members) :
    Informed (step g e).members := by
  rcases members_step_cases g e with hsame | ⟨args, -, hm⟩ | ⟨member_id, -, hm⟩ | ⟨args, hm⟩
  · rwa [hsame]
  · obtain ⟨id, -, cert, -, key, -, ack, -, hafter⟩ := setMember_eq_ok.mp hm
    rw [← hafter]
    refine informed_edit h id ?_ ?_ ?_
    · intro other hother
      cases key <;> simp [Ne.symm hother]
    · intro other hother
      simp [Table.getElem?_set, Ne.symm hother]
    · exact fun _ => ⟨_, Std.ExtTreeMap.getElem?_insert_self⟩
  · rcases removeMember_eq_ok.mp hm with ⟨-, hsame⟩ | ⟨-, -, hafter⟩
    · rwa [← hsame]
    rw [← hafter]
    refine informed_edit h member_id.val ?_ ?_ ?_
    · intro other hother
      simp [Members.forget, Ne.symm hother]
    · intro other hother
      simp [Members.forget, Table.getElem?_delete, Ne.symm hother]
    · simp [Members.forget]
  · obtain ⟨info, -, hafter⟩ := setMemberData_ok hm
    rw [hafter]
    refine informed_edit h args.member_id.val (fun _ _ hmem => hmem) ?_ ?_
    · intro other hother
      simp [Table.getElem?_set, Ne.symm hother]
    · exact fun _ => ⟨_, Std.ExtTreeMap.getElem?_insert_self⟩

/-- Setting a member writes the members, and takes its own out of the recovery members. -/
theorem step_setsMember {g : State} {e : Enactment} {id : Text} (h : SetsMember id g e) :
    (step g e).service = g.service ∧
      recoveryMembers (step g e).members = (recoveryMembers g.members).erase id := by
  obtain ⟨args, hvalid, hid, ⟨cert, hcert⟩, ⟨key, hkey⟩, ack, hack⟩ := h
  obtain ⟨m', hset⟩ : ∃ m', setMember e.ccf g.signature args g.members = (.ok (), m') :=
    ⟨_, setMember_eq_ok.mpr ⟨id, hid, cert, hcert, key, hkey, ack, hack, Eq.refl _⟩⟩
  have hstep : step g e = { g with members := m' } :=
    step_returns hvalid (onMembers_eq_ok.mpr ⟨m', hset, rfl⟩)
  rw [hstep]
  exact ⟨rfl, recoveryMembers_setMember hid hset⟩

/-- An update of the configuration leaves an open service recoverable. -/
theorem recoverable_update {g g' : State} {ccf : Ccf} {new_config : NewConfig}
    (h : Recoverable g)
    (hupdate : updateServiceConfig ccf (getActiveRecoveryMembersCount g.members) new_config
      g.service = (.ok (), g'.service)) (hmembers : g'.members = g.members) : Recoverable g' := by
  obtain ⟨config, type, hconfig, -, hcheck, hinfo, hconfig'⟩ := updateServiceConfig_ok hupdate
  intro hopen updated hupdated
  rw [Service.status, hinfo] at hopen
  cases hconfig'.symm.trans hupdated
  have hbefore := h hopen config hconfig
  rw [checkRecoveryThreshold] at hcheck
  rw [hmembers]
  cases hnew : new_config.recovery_threshold with
  | none => simpa [ServiceConfig.updated, hnew] using hbefore
  | some threshold =>
    obtain ⟨info, hinfo, hstatus⟩ := Option.map_eq_some_iff.mp hopen
    have hle : threshold.val ≤ (recoveryMembers g.members).card := by
      by_cases hkept : config.recovery_threshold = threshold.val
      · rwa [← hkept]
      · simp only [hnew, hinfo, hstatus, if_neg hkept] at hcheck
        obtain ⟨count, hcount, henough⟩ := Program.except_bind_eq_ok.mp hcheck
        rw [← count_of_ok hcount]
        exact not_lt.mp (refuseIf_eq_ok.mp henough)
    simpa [ServiceConfig.updated, hnew] using hle

/-- Every other action leaves an open service recoverable. -/
theorem recoverable_other {g : State} {e : Enactment} (h : Recoverable g)
    (hother : ∀ id, ¬ SetsMember id g e) (hkept : ∀ s', ¬ Opens g e s') :
    Recoverable (step g e) := by
  rcases service_step_cases g e with hrules | ⟨new_config, hupdate, hmembers⟩ | ⟨hopens, -⟩
  rotate_left
  · exact recoverable_update h hupdate hmembers
  · exact absurd hopens (hkept _)
  have hle : (recoveryMembers (step g e).members) = recoveryMembers g.members →
      Recoverable (step g e) := fun hmembers => (recoverable_congr hmembers hrules).mpr h
  rcases members_step_cases g e with hsame | ⟨args, hvalid, hm⟩ | ⟨member_id, -, hm⟩ | ⟨args, hm⟩
  · exact hle (by rw [hsame])
  · obtain ⟨id, hid, cert, hcert, key, hkey, ack, hack, -⟩ := setMember_eq_ok.mp hm
    exact absurd ⟨args, hvalid, hid, ⟨cert, hcert⟩, ⟨key, hkey⟩, ack, hack⟩ (hother id)
  · rcases removeMember_eq_ok.mp hm with ⟨-, hsame⟩ | ⟨-, hcheck, hafter⟩
    · exact hle (by rw [hsame])
    have herase : recoveryMembers (step g e).members =
        (recoveryMembers g.members).erase member_id.val := by
      rw [← hafter, recoveryMembers_forget]
    by_cases hid : member_id.val ∈ recoveryMembers g.members
    · intro hopen config hconfig
      obtain ⟨hconfigs, hstatus⟩ := Prod.mk.inj hrules
      rw [hconfigs] at hconfig
      have hremaining := (hcheck hid).1
      rw [hconfig] at hremaining
      obtain ⟨count, hcount, henough⟩ := Program.except_bind_eq_ok.mp hremaining
      have hspare := not_lt.mp (refuseIf_eq_ok.mp henough)
      rw [count_of_ok hcount] at hspare
      rw [herase, Finset.card_erase_of_mem hid]
      omega
    · exact hle (by rw [herase, Finset.erase_eq_of_notMem hid])
  · exact hle (recoveryMembers_setMemberData hm)

/-- A service that is opened is recoverable exactly if that is on enough members. -/
theorem recoverable_opens {g : State} {e : Enactment} (h : Opens g e (step g e).service)
    (hmembers : (step g e).members = g.members) :
    Recoverable (step g e) ↔ OpensOnEnough g e := by
  rw [Recoverable, hmembers, h.config]
  constructor
  · intro hafter s' hopens
    rwa [hopens.unique h]
  · exact fun henough => henough _ h

/-- Setting a member leaves an open service recoverable exactly when the member is spared. -/
theorem recoverable_setsMember {g : State} {e : Enactment} {id : Text} (h : Recoverable g)
    (hset : SetsMember id g e) : Recoverable (step g e) ↔ SparesRecovery g e := by
  obtain ⟨hservice, hmembers⟩ := step_setsMember hset
  rw [Recoverable, hservice, hmembers]
  constructor
  · intro hafter other hother hmem hopen config hconfig
    cases setsMember_unique hother hset
    have hle := hafter hopen config hconfig
    have hpos : 0 < (recoveryMembers g.members).card := Finset.card_pos.mpr ⟨_, hmem⟩
    rw [Finset.card_erase_of_mem hmem] at hle
    omega
  · intro hspares hopen config hconfig
    by_cases hmem : id ∈ recoveryMembers g.members
    · have hlt := hspares id hset hmem hopen config hconfig
      rw [Finset.card_erase_of_mem hmem]
      omega
    · rw [Finset.erase_eq_of_notMem hmem]
      exact h hopen config hconfig

/-- An action leaves an open service recoverable exactly when it spares the active recovery
members the service depends on, and opens no service that has too few. -/
theorem recoverable_step_iff {g : State} {e : Enactment} (h : Recoverable g) :
    Recoverable (step g e) ↔ SparesRecovery g e ∧ OpensOnEnough g e := by
  by_cases hsets : ∃ id, SetsMember id g e
  · obtain ⟨id, hset⟩ := hsets
    rw [recoverable_setsMember h hset]
    refine (and_iff_left fun s' hopens => ?_).symm
    obtain ⟨args, hvalid, -⟩ := hset
    obtain ⟨args', hvalid', -⟩ := hopens
    cases hvalid.symm.trans hvalid'
  have hspares : SparesRecovery g e := fun id hset => absurd ⟨id, hset⟩ hsets
  rw [and_iff_right hspares]
  by_cases hopens : ∃ s', Opens g e s'
  · obtain ⟨s', hopens⟩ := hopens
    obtain ⟨hafter, hmembers⟩ := hopens.step
    exact recoverable_opens (hafter ▸ hopens) hmembers
  · have hnone : ∀ s', ¬ Opens g e s' := fun s' h => hopens ⟨s', h⟩
    exact iff_of_true (recoverable_other h (fun id hset => hsets ⟨id, hset⟩) hnone)
      fun s' h => absurd h (hnone s')

/-- An open service stays recoverable throughout a run of enacted actions exactly when none of
them sets an active recovery member without one to spare, and none opens the service with too
few. -/
theorem recoverable_throughout_iff {g : State} (h : Recoverable g) (es : List Enactment) :
    Runs.Throughout step Recoverable g es ↔
      Runs.Guarded step (fun g e => SparesRecovery g e ∧ OpensOnEnough g e) g es :=
  Runs.throughout_iff_guarded (P := Recoverable) (fun _ _ hg => recoverable_step_iff hg) h es

/-! A service open on its only recovery member, whose certificate is proposed again. -/

private def lastMember : Members :=
  { State.empty.members with
    encryption_public_keys := (∅ : Table Text).insert (text "m0") (text "key")
    info := (∅ : Table MemberInfo).insert (text "m0") ⟨none, .active⟩ }

private def openService : State :=
  { State.empty with
    members := lastMember
    service := ⟨some ⟨1, none, none, none, none⟩, some ⟨.opened, []⟩, []⟩ }

private def setAgain : Enactment where
  ccf := .accepting
  proposalId := text "p0"
  name := text "set_member"
  args := some (.obj
    [(text "cert", .str (text "m0")), (text "encryption_pub_key", .str (text "key"))])

private theorem recoveryMembers_lastMember : recoveryMembers lastMember = {text "m0"} := by
  ext id
  rw [mem_recoveryMembers, lastMember, Finset.mem_singleton, Table.getElem?_set]
  by_cases hid : text "m0" = id
  · simp [hid]
  · simp [hid, Ne.symm hid]

private theorem setsMember_setAgain : SetsMember (text "m0") openService setAgain :=
  ⟨⟨some (.str (text "m0")), none, some (.str (text "key"))⟩, rfl, rfl, ⟨_, rfl⟩, ⟨_, rfl⟩, _, rfl⟩

/-- Proposing the certificate of the last active recovery member again leaves an open service
that cannot be recovered. -/
theorem setAgain_unrecoverable : ¬ Runs.Throughout step Recoverable openService [setAgain] := by
  have hmembers : recoveryMembers openService.members = {text "m0"} := recoveryMembers_lastMember
  have hrecoverable : Recoverable openService := by
    intro _ config hconfig
    rw [hmembers, Finset.card_singleton]
    cases hconfig
    decide
  rw [recoverable_throughout_iff hrecoverable]
  intro hguarded
  have hspares := (hguarded [] setAgain List.prefix_rfl).1 (text "m0") setsMember_setAgain
    (by rw [Runs.run_nil, hmembers]; exact Finset.mem_singleton_self _) rfl _ rfl
  rw [Runs.run_nil, hmembers, Finset.card_singleton] at hspares
  exact absurd hspares (by decide)

end CcfIdentity.Constitution
