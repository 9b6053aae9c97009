import CcfIdentity.Constitution.Checks
import CcfIdentity.Constitution.Tables

/-!
# The service

The actions on the service as a whole,
`samples/logapp/constitution/actions.js:539–626` and `:1142–1205`, and the functions they
share, `:154–193` and `:239–319`. An update of the configuration makes all its checks before
it writes.
-/

open Utf16

namespace CcfIdentity.Constitution

/-- A recovery threshold that passes its bounds. -/
abbrev Threshold := { n : Int // Within (some 1) (some 254) n }

/-- A period that passes its bounds. -/
abbrev ValidityPeriod := { n : Int // Within (some 1) none n }

/-- What an update of the configuration reads of its argument. -/
structure NewConfig where
  reconfiguration_type : Option Json
  recovery_threshold : Option Threshold

/-- The default of lines 163 and 215, and of line 987. -/
def default_validity_period_days : Int := 365

/-- Lines 268–283; the value is the type the configuration is given, if it is given one. -/
def checkReconfigurationType (config : ServiceConfig) (new_config : NewConfig) :
    Except Fault (Option Text) :=
  match new_config.reconfiguration_type with
  | none => .ok none
  | some (.str type) =>
    if config.reconfiguration_type = some type then .ok (some type)
    else if (config.reconfiguration_type = none ∨
        config.reconfiguration_type = some (text "OneTransaction")) ∧
        type = text "TwoTransaction" then .ok (some type)
    else .error (refusal (.str type))
  | some other => .error (refusal other)
where
  refusal (type : Json) : Fault :=
    errorOf (lit "Cannot change reconfiguration type from " ++
      [.shown (config.reconfiguration_type.map .str)] ++ lit " to " ++ [.shown (some type)] ++
      lit ".")

/-- Lines 239–266. The count is that of the active recovery members. -/
def checkRecoveryThreshold (count : Except Fault Int) (info : Option ServiceInfo)
    (config : ServiceConfig) (new_config : NewConfig) : Except Fault Unit :=
  match new_config.recovery_threshold with
  | none => .ok ()
  | some threshold =>
    if config.recovery_threshold = threshold.val then .ok ()
    else
      match info with
      | none => .error (errorOf (lit "Service information could not be found"))
      | some service =>
        match service.status with
        | .waitingForRecoveryShares => .error (errorOf
            (lit "Cannot set recovery threshold if service is WaitingForRecoveryShares"))
        | .opened => do
          let activeRecoveryMembersCount ← count
          refuseIf (activeRecoveryMembersCount < threshold.val)
            (lit "Cannot set recovery threshold to " ++ [number threshold.val] ++
              lit ": recovery threshold would be greater than the number of recovery members " ++
              [number activeRecoveryMembersCount])
        | _ => .ok ()

/-- The configuration with what is new in it, lines 298–309. -/
def ServiceConfig.updated (config : ServiceConfig) (type : Option Text) (new_config : NewConfig) :
    ServiceConfig :=
  { config with
    reconfiguration_type := type.or config.reconfiguration_type
    recovery_threshold :=
      (new_config.recovery_threshold.map Subtype.val).getD config.recovery_threshold }

/-- Lines 285–319. -/
def updateServiceConfig (ccf : Ccf) (count : Except Fault Int) (new_config : NewConfig) :
    Program Fault Service Unit := do
  let s ← .read id
  match s.config with
  | none => .throw (errorOf (lit "Service configuration could not be found"))
  | some config => do
    let type ← .check (checkReconfigurationType config new_config)
    .check (checkRecoveryThreshold count s.info config new_config)
    .write fun s => { s with config := some (config.updated type new_config) }
    if (config.updated type new_config).recovery_threshold ≠ config.recovery_threshold then
      .write fun s => { s with calls := s.calls ++ [.triggerRecoverySharesRefresh] }
      .check (ccf.answer .triggerRecoverySharesRefresh)

/-- Lines 541–544. The update is given all arguments, checked or not. -/
def validateSetRecoveryThreshold (args : Option Json) : Except Fault NewConfig := do
  let n : Int ← checkType .integer (← field args "recovery_threshold") (lit "threshold")
  let threshold ← checkBounds n (some 1) (some 254) (lit "threshold")
  return { reconfiguration_type := ← field args "reconfiguration_type",
           recovery_threshold := some threshold }

/-- The names a `for … in` loop visits. -/
def keysIn : Option Json → List Text
  | some (.obj members) => members.map Prod.fst
  | some (.arr elements) => (List.range elements.length).map fun i => text (toString i)
  | some (.str s) => (List.range s.length).map fun i => text (toString i)
  | _ => []

/-- Lines 1171–1182. A threshold of `null` passes the first of its checks and is compared
as zero by the second; a missing one is no number and passes both. -/
def validateSetServiceConfiguration (args : Option Json) : Except Fault NewConfig := do
  (keysIn args).forM fun key => do
    refuseIf (key ≠ text "reconfiguration_type" ∧ key ≠ text "recovery_threshold")
      (lit "Cannot change " ++ [.text key] ++ lit " via set_service_configuration.")
  let reconfiguration_type ← field args "reconfiguration_type"
  let _ ← checkOptional .string reconfiguration_type (lit "reconfiguration type")
  let recovery_threshold ← field args "recovery_threshold"
  let n : Option Int ←
    checkOptional .integer recovery_threshold (lit "recovery threshold")
  let threshold ← recovery_threshold.mapM fun _ =>
    checkBounds (n.getD 0) (some 1) (some 254) (lit "recovery threshold")
  return { reconfiguration_type, recovery_threshold := threshold }

/-- What the checks leave of the arguments of `transition_service_to_open`. -/
structure ServiceIdentities where
  previous_service_identity : Option Json
  next_service_identity : Text

/-- Lines 576–598. -/
def validateTransitionServiceToOpen (ccf : Ccf) (args : Option Json) :
    Except Fault ServiceIdentities := do
  let next : Text ← checkType .string (← field args "next_service_identity")
    (lit "next service identity (PEM certificate)")
  checkX509CertBundle ccf (some (.str next)) (lit "next_service_identity")
  let previous ← field args "previous_service_identity"
  let _ ← checkOptional .string previous (lit "previous service identity (PEM certificate)")
  if previous.isSome then
    checkX509CertBundle ccf previous (lit "previous_service_identity")
  return { previous_service_identity := previous, next_service_identity := next }

/-- Lines 600–625. -/
def transitionServiceToOpen (ccf : Ccf) (args : ServiceIdentities) :
    Program Fault Service Unit := do
  let s ← .read id
  match s.info with
  | none => .throw (errorOf (lit "Service information could not be found"))
  | some service => do
    .check (refuseIf (service.status = .recovering ∧ args.previous_service_identity.isNone)
      (lit ("Opening a recovering network requires both, the previous and " ++
        "the next service identity")))
    let previous ← .check (args.previous_service_identity.mapM fun v => ccf.strToBuf (some v))
    let call := Call.transitionServiceToOpen previous args.next_service_identity
    .write fun s => { s with calls := s.calls ++ [call] }
    let opened ← .check (ccf.openedService previous args.next_service_identity service)
    .write fun s => { s with info := some opened }

/-- What the checks leave of the arguments of an action on certificates. -/
structure Validity where
  valid_from : Text
  validity_period_days : Option ValidityPeriod

/-- Lines 1109–1124 and 1144–1159, and of 938–954 and 1068–1084 all but the first check. -/
def validateValidity (args : Option Json) : Except Fault Validity := do
  let valid_from : Text ← checkType .string (← field args "valid_from") (lit "valid_from")
  let days ← field args "validity_period_days"
  let validity_period_days ← days.mapM fun v => do
    let n : Int ← checkType .integer (some v) (lit "validity_period_days")
    checkBounds n (some 1) none (lit "validity_period_days")
  return { valid_from, validity_period_days }

/-- The period a certificate is generated for: the one asked for, if it is not too long, or
the longest, as in lines 163–182, 213–232 and 986–1003. -/
def allowedPeriod (validity : Validity) (max_allowed : Int) (unit max : String) :
    Except Fault Int := do
  let days := (validity.validity_period_days.map Subtype.val).getD max_allowed
  refuseIf (max_allowed < days) (lit "Validity period " ++ [number days] ++
    lit s!"{unit} is not allowed: {max} allowed is " ++ [number max_allowed] ++ lit unit)
  return days

/-- The longest period the service's certificate may have, lines 163–166. -/
def maximumServiceValidity (serviceConfig : ServiceConfig) : Int :=
  serviceConfig.maximum_service_certificate_validity_days.getD default_validity_period_days

/-- Lines 154–193. -/
def setServiceCertificateValidityPeriod (ccf : Ccf) (validity : Validity) :
    Program Fault Service Unit := do
  let s ← .read id
  match s.config with
  | none => .throw (errorOf (lit "Service configuration could not be found"))
  | some serviceConfig => do
    let days ← .check
      (allowedPeriod validity (maximumServiceValidity serviceConfig) " (days)" "service max")
    let call := Call.generateNetworkCertificate validity.valid_from days
    .write fun s => { s with calls := s.calls ++ [call] }
    let renewed_service_certificate ← .check (ccf.certificate call)
    match s.info with
    | none => .throw (errorOf (lit "Service info could not be found"))
    | some serviceInfo =>
      .write fun s => { s with
        info := some { serviceInfo with cert := renewed_service_certificate } }

/-- Lines 556–558, 568–570, 1192–1194 and 1201–1203. -/
def trigger (ccf : Ccf) (call : Call) : Program Fault Service Unit := do
  .write fun s => { s with calls := s.calls ++ [call] }
  .check (ccf.answer call)

/-! ### What the actions leave -/

/-- An update that returns has passed both checks and writes the updated configuration. -/
theorem updateServiceConfig_ok {ccf : Ccf} {count : Except Fault Int} {new_config : NewConfig}
    {s s' : Service} (h : updateServiceConfig ccf count new_config s = (.ok (), s')) :
    ∃ config type, s.config = some config ∧
      checkReconfigurationType config new_config = .ok type ∧
      checkRecoveryThreshold count s.info config new_config = .ok () ∧
      s'.info = s.info ∧ s'.config = some (config.updated type new_config) := by
  simp only [updateServiceConfig, Program.read_bind, id_eq] at h
  cases hconfig : s.config with
  | none => simp [hconfig] at h
  | some config =>
    simp only [hconfig, Program.check_bind_eq_ok, Program.write_bind, Program.ite_apply,
      Program.pure_apply] at h
    obtain ⟨type, htype, u, hcheck, h⟩ := h
    refine ⟨config, type, rfl, htype, hcheck, ?_⟩
    split at h
    · rw [← (Program.check_eq_ok.mp h).2]
      exact ⟨rfl, rfl⟩
    · rw [Prod.mk.injEq] at h
      rw [← h.2]
      exact ⟨rfl, rfl⟩

/-- The status of the service, if there is a record of it. -/
def Service.status (s : Service) : Option ServiceStatus := s.info.map ServiceInfo.status

/-- The configuration and the status of the service. -/
def Service.rules (s : Service) : Option ServiceConfig × Option ServiceStatus :=
  (s.config, s.status)

/-- A trigger that returns has only called the node. -/
theorem trigger_ok {ccf : Ccf} {call : Call} {s s' : Service}
    (h : trigger ccf call s = (.ok (), s')) : s' = { s with calls := s.calls ++ [call] } := by
  rw [trigger, Program.write_bind] at h
  exact (Program.check_eq_ok.mp h).2.symm

/-- A transition that returns has called the node, which opens the service, and leaves its
configuration. -/
theorem transitionServiceToOpen_ok {ccf : Ccf} {args : ServiceIdentities} {s s' : Service}
    (h : transitionServiceToOpen ccf args s = (.ok (), s')) :
    ∃ info previous opened, s.info = some info ∧
      ccf.openedService previous args.next_service_identity info = .ok opened ∧
      s' = { s with
        info := some opened
        calls := s.calls ++ [.transitionServiceToOpen previous args.next_service_identity] } := by
  simp only [transitionServiceToOpen, Program.read_bind, id_eq] at h
  cases hinfo : s.info with
  | none => simp [hinfo] at h
  | some info =>
    simp only [hinfo, Program.check_bind_eq_ok, Program.write_bind] at h
    obtain ⟨u, -, previous, -, opened, hopened, h⟩ := h
    exact ⟨info, previous, opened, rfl, hopened, (Program.write_eq_ok.mp h).symm⟩

/-- A renewal that returns has had a certificate of an allowed period generated, and records
it. -/
theorem setServiceCertificateValidityPeriod_ok {ccf : Ccf} {validity : Validity}
    {s s' : Service} (h : setServiceCertificateValidityPeriod ccf validity s = (.ok (), s')) :
    ∃ config days info cert, s.config = some config ∧ s.info = some info ∧
      allowedPeriod validity (maximumServiceValidity config) " (days)" "service max" =
        .ok days ∧
      s' = { s with
        info := some { info with cert }
        calls := s.calls ++ [.generateNetworkCertificate validity.valid_from days] } := by
  simp only [setServiceCertificateValidityPeriod, Program.read_bind, id_eq] at h
  cases hconfig : s.config with
  | none => simp [hconfig] at h
  | some config =>
    simp only [hconfig, Program.check_bind_eq_ok, Program.write_bind] at h
    obtain ⟨days, hdays, cert, -, h⟩ := h
    cases hinfo : s.info with
    | none => simp [hinfo] at h
    | some info =>
      simp only [hinfo, Program.write_eq_ok] at h
      exact ⟨config, days, info, cert, rfl, rfl, hdays, h.symm⟩

end CcfIdentity.Constitution
