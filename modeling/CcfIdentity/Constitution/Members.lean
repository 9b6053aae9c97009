import CcfIdentity.Constitution.Checks
import CcfIdentity.Constitution.Tables

/-!
# Members

The actions on members, `samples/logapp/constitution/actions.js:340–474`, and the count of
the active recovery members, `:97–111`. A member is addressed by the digest of its
certificate, and is a recovery member while the tables have an encryption key for it.
-/

open Utf16

namespace CcfIdentity.Constitution

/-- What the check leaves of the arguments of `set_member`. -/
structure SetMember where
  cert : Option Json
  member_data : Option Json
  encryption_pub_key : Option Json

/-- Lines 342–346. -/
def validateSetMember (ccf : Ccf) (args : Option Json) : Except Fault SetMember := do
  let cert ← field args "cert"
  checkX509CertBundle ccf cert (lit "cert")
  let member_data ← field args "member_data"
  let _ ← checkOptional .object member_data (lit "member_data")
  return { cert, member_data, encryption_pub_key := ← field args "encryption_pub_key" }

/-- The bytes of an encryption key, unless there is none. -/
def keyBuf (ccf : Ccf) : Option Json → Except Fault (Option Text)
  | none | some .null => .ok none
  | some key => some <$> ccf.strToBuf (some key)

/-- What is acknowledged, lines 376–389: the state the last signature is of, if any. -/
def ackBuf (ccf : Ccf) : Option Json → Except Fault (Option Json)
  | none => ccf.missingValue
  | some signature => do
    let root ← field (some signature) "root"
    let ack := Json.obj (root.toList.map fun digest => (text "state_digest", digest))
    return some (← ccf.jsonCompatibleToBuf (some ack))

/-- Lines 348–390. -/
def setMember (ccf : Ccf) (signature : Option Json) (args : SetMember) :
    Program Fault Members Unit := do
  let memberId ← .check (ccf.pemToId args.cert)
  let cert ← .check (ccf.strToBuf args.cert)
  .write fun m => { m with certs := m.certs.insert memberId cert }
  let key ← .check (keyBuf ccf args.encryption_pub_key)
  .write fun m => { m with
    encryption_public_keys := key.elim (m.encryption_public_keys.erase memberId)
      (m.encryption_public_keys.insert memberId) }
  .write fun m => { m with
    info := m.info.insert memberId ⟨args.member_data.map Json.stored, .accepted⟩ }
  let ack ← .check (ackBuf ccf signature)
  .write fun m => { m with acks := m.acks.insert memberId ack }

/-- `set_member` returns where its arguments can be recorded, and records them. -/
theorem setMember_eq_ok {ccf : Ccf} {signature : Option Json} {args : SetMember}
    {m m' : Members} :
    setMember ccf signature args m = (.ok (), m') ↔
      ∃ id, ccf.pemToId args.cert = .ok id ∧ ∃ cert, ccf.strToBuf args.cert = .ok cert ∧
        ∃ key, keyBuf ccf args.encryption_pub_key = .ok key ∧
          ∃ ack, ackBuf ccf signature = .ok ack ∧
            { m with
              certs := m.certs.insert id cert
              encryption_public_keys := key.elim (m.encryption_public_keys.erase id)
                (m.encryption_public_keys.insert id)
              info := m.info.insert id ⟨args.member_data.map Json.stored, .accepted⟩
              acks := m.acks.insert id ack } = m' := by
  simp only [setMember, Program.check_bind_eq_ok, Program.write_bind, Program.write_eq_ok]

/-- One visit of lines 99–109. -/
def countIfActive (m : Members) (count : Int) (memberId : Text) : Except Fault Int :=
  match m.info[memberId]? with
  | none => .error (errorOf (lit "Recovery member " ++ [.text memberId] ++
      lit " has no information"))
  | some memberInfo => .ok (if memberInfo.status = .active then count + 1 else count)

/-- Lines 97–111. -/
def getActiveRecoveryMembersCount (m : Members) : Except Fault Int :=
  m.encryption_public_keys.keys.foldlM (countIfActive m) 0

/-- The check of lines 419–434, made before an active recovery member is
removed. -/
def checkRemainingMembers (config : Option ServiceConfig) (m : Members) : Except Fault Unit :=
  match config with
  | none => .error (errorOf (lit "Service configuration could not be found"))
  | some config => do
    let activeRecoveryMembersCountAfter := (← getActiveRecoveryMembersCount m) - 1
    refuseIf (activeRecoveryMembersCountAfter < config.recovery_threshold)
      (lit "Number of active recovery members (" ++ [number activeRecoveryMembersCountAfter] ++
        lit ") would be less than recovery threshold (" ++ [number config.recovery_threshold] ++
        lit ")")

/-- Lines 396–398. -/
def validateRemoveMember (args : Option Json) : Except Fault EntityId := do
  checkEntityId (← field args "member_id") (lit "member_id")

/-- Lines 436–442. -/
def Members.forget (memberId : Text) (m : Members) : Members :=
  { m with
    info := m.info.erase memberId
    encryption_public_keys := m.encryption_public_keys.erase memberId
    certs := m.certs.erase memberId
    acks := m.acks.erase memberId
    history := m.history.erase memberId }

/-- Lines 399–451. -/
def removeMember (ccf : Ccf) (config : Option ServiceConfig) (member_id : EntityId) :
    Program Fault Members Unit := do
  let m ← .read id
  match m.info[member_id.val]? with
  | none => pure ()
  | some memberInfo => do
    let isActiveMember := memberInfo.status = .active
    let isRecoveryMember := m.encryption_public_keys.contains member_id.val = true
    if isActiveMember ∧ isRecoveryMember then
      .check (checkRemainingMembers config m)
    .write (Members.forget member_id.val)
    if isActiveMember ∧ isRecoveryMember then
      .write fun m => { m with calls := m.calls ++ [.triggerLedgerRekey] }
      .check (ccf.answer .triggerLedgerRekey)

/-- What the checks leave of the arguments of `set_member_data`. -/
structure SetMemberData where
  member_id : EntityId
  member_data : Json

/-- Lines 457–460. -/
def validateSetMemberData (args : Option Json) : Except Fault SetMemberData := do
  let member_id ← checkEntityId (← field args "member_id") (lit "member_id")
  let member_data ← checkType .object (← field args "member_data") (lit "member_data")
  return { member_id, member_data }

/-- Lines 462–472. -/
def setMemberData (args : SetMemberData) : Program Fault Members Unit := do
  let m ← .read id
  match m.info[args.member_id.val]? with
  | none => .throw (errorOf (lit "Member " ++ [.text args.member_id.val] ++
      lit " does not exist"))
  | some mi =>
    .write fun m => { m with
      info := m.info.insert args.member_id.val
        { mi with member_data := some args.member_data.stored } }

/-- A member whose data are set exists. -/
theorem setMemberData_ok {args : SetMemberData} {m m' : Members}
    (h : setMemberData args m = (.ok (), m')) :
    ∃ info, m.info[args.member_id.val]? = some info ∧ m' = { m with
      info := m.info.insert args.member_id.val
        { info with member_data := some args.member_data.stored } } := by
  simp only [setMemberData, Program.read_bind, id_eq] at h
  cases hinfo : m.info[args.member_id.val]? with
  | none => simp [hinfo] at h
  | some info =>
    simp only [hinfo, Program.write_eq_ok] at h
    exact ⟨info, rfl, h.symm⟩

end CcfIdentity.Constitution
