import CcfIdentity.Constitution.Steps

/-!
# The configuration along a run

What a run of enacted actions can make of the service's configuration and status. The two
actions that update the configuration share one update, so that both can set either of its
fields, and none changes the rest of it. The status is the node's to change, which it does
when an action has it open the service.
-/

open Utf16

namespace CcfIdentity.Constitution

/-- One configuration can become another. -/
structure ServiceConfig.Becomes (config config' : ServiceConfig) : Prop where
  consensus : config'.consensus = config.consensus
  service_days : config'.maximum_service_certificate_validity_days =
    config.maximum_service_certificate_validity_days
  node_days : config'.maximum_node_certificate_validity_days =
    config.maximum_node_certificate_validity_days
  type : config'.reconfiguration_type = config.reconfiguration_type ∨
    (config.reconfiguration_type = none ∨
      config.reconfiguration_type = some (text "OneTransaction")) ∧
      config'.reconfiguration_type = some (text "TwoTransaction")
  threshold : config'.recovery_threshold = config.recovery_threshold ∨
    1 ≤ config'.recovery_threshold ∧ config'.recovery_threshold ≤ 254

/-- One service can become another: the configuration of the first can become that of the
second, if there is any. -/
structure Service.Becomes (s s' : Service) : Prop where
  absent : s'.config = none ↔ s.config = none
  config : ∀ config config', s.config = some config → s'.config = some config' →
    config.Becomes config'

/-- The action has the node open the service, and returns with it as `s'`. -/
def Opens (g : State) (e : Enactment) (s' : Service) : Prop :=
  ∃ args, validate e = .ok (.transition_service_to_open args) ∧
    transitionServiceToOpen e.ccf args g.service = (.ok (), s')

theorem ServiceConfig.Becomes.refl (config : ServiceConfig) : config.Becomes config :=
  ⟨rfl, rfl, rfl, .inl rfl, .inl rfl⟩

theorem ServiceConfig.Becomes.trans {a b c : ServiceConfig} (hab : a.Becomes b)
    (hbc : b.Becomes c) : a.Becomes c := by
  have htext : text "TwoTransaction" ≠ text "OneTransaction" := by decide
  refine ⟨hbc.consensus.trans hab.consensus, hbc.service_days.trans hab.service_days,
    hbc.node_days.trans hab.node_days, ?_, ?_⟩
  · rcases hbc.type with hsame | ⟨hfrom, hto⟩
    · rw [hsame]
      exact hab.type
    · rcases hab.type with hsame | ⟨-, htwo⟩
      · rw [hsame] at hfrom
        exact .inr ⟨hfrom, hto⟩
      · rw [htwo] at hfrom
        simp [htext] at hfrom
  · rcases hbc.threshold with hsame | hbounds
    · rw [hsame]
      exact hab.threshold
    · exact .inr hbounds

/-- A type that passes its check is the present one or the second of the two. -/
theorem type_of_checkReconfigurationType {config : ServiceConfig} {new_config : NewConfig}
    {type : Option Text} (h : checkReconfigurationType config new_config = .ok type) :
    type.or config.reconfiguration_type = config.reconfiguration_type ∨
      (config.reconfiguration_type = none ∨
        config.reconfiguration_type = some (text "OneTransaction")) ∧
        type.or config.reconfiguration_type = some (text "TwoTransaction") := by
  rw [checkReconfigurationType] at h
  split at h
  · cases h
    exact .inl rfl
  · split at h
    · next hsame =>
      cases h
      exact .inl hsame.symm
    · split at h
      · next hfrom =>
        cases h
        exact .inr ⟨hfrom.1, congrArg some hfrom.2⟩
      · cases h
  · cases h

/-- A configuration becomes what an update that passes its check makes of it. -/
theorem becomes_updated {config : ServiceConfig} {new_config : NewConfig} {type : Option Text}
    (h : checkReconfigurationType config new_config = .ok type) :
    config.Becomes (config.updated type new_config) := by
  refine ⟨rfl, rfl, rfl, type_of_checkReconfigurationType h, ?_⟩
  cases hnew : new_config.recovery_threshold with
  | none => exact .inl (by simp [ServiceConfig.updated, hnew])
  | some threshold =>
    have hbounds := threshold.property
    exact .inr ⟨by simpa [ServiceConfig.updated, hnew] using hbounds.1 1 rfl,
      by simpa [ServiceConfig.updated, hnew] using hbounds.2 254 rfl⟩

theorem Service.Becomes.refl (s : Service) : s.Becomes s := by
  refine ⟨Iff.rfl, fun config config' hconfig hconfig' => ?_⟩
  cases hconfig.symm.trans hconfig'
  exact .refl config

theorem Service.Becomes.trans {a b c : Service} (hab : a.Becomes b) (hbc : b.Becomes c) :
    a.Becomes c := by
  refine ⟨hbc.absent.trans hab.absent, ?_⟩
  intro config config'' hconfig hconfig''
  cases hmid : b.config with
  | none => rw [hab.absent.mp hmid] at hconfig; cases hconfig
  | some config' =>
    exact (hab.config config config' hconfig hmid).trans
      (hbc.config config' config'' hmid hconfig'')

/-- A service that keeps its configuration becomes itself. -/
theorem becomes_of_config {s s' : Service} (h : s'.config = s.config) : s.Becomes s' := by
  refine ⟨by rw [h], fun config config' hold hnew => ?_⟩
  rw [h, hold] at hnew
  cases hnew
  exact .refl config

/-- An action updates the configuration, or has the service opened, or leaves its configuration
and status alone. -/
theorem service_step_cases (g : State) (e : Enactment) :
    (step g e).service.rules = g.service.rules ∨
      (∃ new_config, updateServiceConfig e.ccf (getActiveRecoveryMembersCount g.members) new_config
          g.service = (.ok (), (step g e).service) ∧ (step g e).members = g.members) ∨
      Opens g e (step g e).service ∧ (step g e).members = g.members := by
  rcases step_cases g e with hsame | ⟨action, hvalid, happly⟩
  · exact .inl (by rw [hsame])
  cases action with
  | set_recovery_threshold new_config | set_service_configuration new_config =>
    obtain ⟨s', hs, hg⟩ := onService_eq_ok.mp happly
    rw [← hg]
    exact .inr (.inl ⟨new_config, hs, rfl⟩)
  | trigger_recovery_shares_refresh | trigger_ledger_rekey | trigger_ledger_chunk
  | trigger_snapshot =>
    obtain ⟨s', hs, hg⟩ := onService_eq_ok.mp happly
    rw [← hg, trigger_ok hs]
    exact .inl rfl
  | transition_service_to_open args =>
    obtain ⟨s', hs, hg⟩ := onService_eq_ok.mp happly
    rw [← hg]
    exact .inr (.inr ⟨⟨args, hvalid, hs⟩, rfl⟩)
  | set_service_certificate_validity validity =>
    obtain ⟨s', hs, hg⟩ := onService_eq_ok.mp happly
    obtain ⟨config, days, info, cert, -, hinfo, -, rfl⟩ :=
      setServiceCertificateValidityPeriod_ok hs
    rw [← hg]
    exact .inl (by simp [Service.rules, Service.status, hinfo])
  | _ =>
    have hservice : (step g e).service = g.service :=
      frame_of_ok happly .service (by simp [Action.writes])
    exact .inl (by rw [hservice])

/-- A service that is opened keeps its configuration. -/
theorem Opens.config {g : State} {e : Enactment} {s' : Service} (h : Opens g e s') :
    s'.config = g.service.config := by
  obtain ⟨args, -, hs⟩ := h
  obtain ⟨info, previous, opened, -, -, rfl⟩ := transitionServiceToOpen_ok hs
  rfl

/-- An action leaves one service where it opens it. -/
theorem Opens.unique {g : State} {e : Enactment} {s' s'' : Service} (h : Opens g e s')
    (h' : Opens g e s'') : s' = s'' := by
  obtain ⟨args, hvalid, hs⟩ := h
  obtain ⟨args', hvalid', hs'⟩ := h'
  cases hvalid.symm.trans hvalid'
  exact (Prod.mk.inj (hs.symm.trans hs')).2

/-- What an action leaves that opens the service. -/
theorem Opens.step {g : State} {e : Enactment} {s' : Service} (h : Opens g e s') :
    (step g e).service = s' ∧ (step g e).members = g.members := by
  obtain ⟨args, hvalid, hs⟩ := h
  rw [step_returns hvalid (onService_eq_ok.mpr ⟨s', hs, rfl⟩)]
  exact ⟨rfl, rfl⟩

/-- One action keeps to what the service can become. -/
theorem becomes_step (g : State) (e : Enactment) : g.service.Becomes (step g e).service := by
  rcases service_step_cases g e with hrules | ⟨new_config, hupdate, -⟩ | ⟨hopens, -⟩
  · exact becomes_of_config (Prod.mk.inj hrules).1
  · obtain ⟨config, type, hconfig, htype, -, hinfo, hconfig'⟩ := updateServiceConfig_ok hupdate
    refine ⟨by simp [hconfig, hconfig'], fun c c' hc hc' => ?_⟩
    cases hconfig.symm.trans hc
    cases hconfig'.symm.trans hc'
    exact becomes_updated htype
  · exact becomes_of_config hopens.config

/-- The status of the service changes only when an action has it opened. -/
theorem status_step (g : State) (e : Enactment) :
    (step g e).service.status = g.service.status ∨ Opens g e (step g e).service := by
  rcases service_step_cases g e with hrules | ⟨new_config, hupdate, -⟩ | ⟨hopens, -⟩
  · exact .inl (Prod.mk.inj hrules).2
  · obtain ⟨config, type, -, -, -, hinfo, -⟩ := updateServiceConfig_ok hupdate
    exact .inl (by rw [Service.status, Service.status, hinfo])
  · exact .inr hopens

/-- A run of enacted actions keeps the consensus and the longest periods, changes the way of
reconfiguration at most from none or one transaction to two, and sets no threshold out of
bounds; and the status of the service is what it was, unless some action of the run has it
opened. -/
theorem becomes_run (g : State) (es : List Enactment) :
    g.service.Becomes (Runs.run step g es).service ∧
      ((Runs.run step g es).service.status = g.service.status ∨ ∃ done e s',
        done ++ [e] <+: es ∧ Opens (Runs.run step g done) e s') := by
  constructor
  · refine Runs.run_preserves (I := fun s : State => g.service.Becomes s.service) ?_ (.refl _) es
    intro g' e hg'
    exact hg'.trans (becomes_step g' e)
  · refine or_iff_not_imp_left.mpr fun hchanged => ?_
    obtain ⟨done, e, hpre, hsame, hnew⟩ :=
      Runs.exists_switch (Q := fun s : State => s.service.status ≠ g.service.status)
        (not_not_intro rfl) hchanged
    refine ⟨done, e, _, hpre, (status_step _ e).resolve_left fun hkept => hnew ?_⟩
    exact hkept.trans (not_not.mp hsame)

end CcfIdentity.Constitution
