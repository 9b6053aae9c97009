import CcfIdentity.Constitution.Steps

/-!
# Issuers that refresh themselves

The node fetches the keys of a self-refreshing issuer from its URL, over a connection it
trusts by a bundle of certificates. An issuer is set only with a bundle that is there and a
URL that can be fetched. Later this breaks by the removal of a bundle that an issuer still
names, and by nothing else.
-/

open Utf16

namespace CcfIdentity.Constitution

/-- The issuer's entry asks for refreshing. -/
def refreshes (metadata : Json) : Bool := truthy (metadata.property (text "auto_refresh"))

/-- The issuer's entry names the bundle. -/
def NamesBundle (metadata : Json) (name : Text) : Prop :=
  metadata.property (text "ca_cert_bundle_name") = some (.str name)

/-- The node can refresh the issuer: there is the bundle its entry names, and its URL has the
one scheme and neither query nor fragment. -/
structure Refreshable (i : Issuers) (issuer : Text) (metadata : Json) : Prop where
  bundle : ∃ name, NamesBundle metadata name ∧ name ∈ i.ca_cert_bundles
  scheme : (parseUrl issuer).scheme = some (text "https")
  query : (parseUrl issuer).query.getD [] = []
  fragment : (parseUrl issuer).fragment.getD [] = []

/-- Every issuer that refreshes itself can. -/
def AllRefreshable (i : Issuers) : Prop :=
  ∀ (issuer : Text) (metadata : Json), i.issuers[issuer]? = some metadata →
    refreshes metadata = true → Refreshable i issuer metadata

/-- The action removes no bundle that such an issuer names. -/
def SparesBundles (g : State) (e : Enactment) : Prop :=
  ∀ name, validate e = .ok (.remove_ca_cert_bundle name) →
    ∀ (issuer : Text) (metadata : Json), g.issuers.issuers[issuer]? = some metadata →
      refreshes metadata = true → ¬ NamesBundle metadata name

/-- An issuer that is set can be refreshed if it is to be. -/
theorem refreshable_of_set {e : Enactment} {args : SetJwtIssuer} {i i' : Issuers}
    (hvalid : validate e = .ok (.set_jwt_issuer args))
    (h : setJwtIssuer e.ccf args i = (.ok (), i'))
    (hrefreshes : refreshes args.metadata.stored = true) :
    Refreshable i' args.issuer args.metadata.stored := by
  obtain ⟨⟨u, hcheck⟩, calls, rfl⟩ := setJwtIssuer_ok h
  rw [refreshes, Json.property_stored, property_metadata _ (by decide)] at hrefreshes
  obtain ⟨hasked, bundle, hauto⟩ :=
    validateSetJwtIssuer_refreshes (validateSetJwtIssuer_ok hvalid) hrefreshes
  obtain ⟨-, hscheme, hquery, hfragment⟩ := checkAutoRefresh_eq_ok.mp hauto
  obtain ⟨name, hname, hmem⟩ := checkBundle_ok hasked hcheck
  refine ⟨⟨name, ?_, hmem⟩, hscheme, hquery, hfragment⟩
  rw [NamesBundle, Json.property_stored, property_metadata _ (by decide), hname]
  rfl

/-- An issuer stays refreshable while no bundle is removed that it names. -/
theorem Refreshable.of_bundles {i i' : Issuers} {issuer : Text} {metadata : Json}
    (h : Refreshable i issuer metadata)
    (hbundles : ∀ name, NamesBundle metadata name → name ∈ i.ca_cert_bundles →
      name ∈ i'.ca_cert_bundles) : Refreshable i' issuer metadata := by
  obtain ⟨name, hname, hmem⟩ := h.bundle
  exact ⟨⟨name, hname, hbundles name hname hmem⟩, h.scheme, h.query, h.fragment⟩

/-! ### One action -/

/-- An action that removes no bundle leaves the issuers refreshable. -/
theorem refreshable_other {g : State} {e : Enactment} (h : AllRefreshable g.issuers)
    (hnot : ∀ name, validate e ≠ .ok (.remove_ca_cert_bundle name)) :
    AllRefreshable (step g e).issuers := by
  rcases step_cases g e with hsame | ⟨action, hvalid, happly⟩
  · rwa [hsame]
  by_cases hwrites : Part.issuers ∈ action.writes
  · cases action with
    | set_ca_cert_bundle args =>
      obtain ⟨i, hi, hg⟩ := onIssuers_eq_ok.mp happly
      rw [← hg]
      obtain ⟨bundle, -, hi⟩ := Program.check_bind_eq_ok.mp hi
      rw [← Program.write_eq_ok.mp hi]
      intro issuer metadata hissuer hrefreshes
      exact (h issuer metadata hissuer hrefreshes).of_bundles fun name _ hmem =>
        Std.ExtTreeMap.mem_insert.mpr (.inr hmem)
    | remove_ca_cert_bundle name => exact absurd hvalid (hnot name)
    | set_jwt_issuer args =>
      obtain ⟨i, hi, hg⟩ := onIssuers_eq_ok.mp happly
      rw [← hg]
      intro issuer metadata hissuer hrefreshes
      have hset := refreshable_of_set hvalid hi
      obtain ⟨-, calls, rfl⟩ := setJwtIssuer_ok hi
      rw [Table.getElem?_set] at hissuer
      split at hissuer
      · next hid =>
        cases hissuer
        exact hid ▸ hset hrefreshes
      · exact (h issuer metadata hissuer hrefreshes).of_bundles fun _ _ hmem => hmem
    | set_jwt_public_signing_keys args =>
      obtain ⟨i, hi, hg⟩ := onIssuers_eq_ok.mp happly
      obtain ⟨calls, rfl⟩ := setJwtPublicSigningKeys_ok hi
      rw [← hg]
      intro issuer metadata hissuer hrefreshes
      exact (h issuer metadata hissuer hrefreshes).of_bundles fun _ _ hmem => hmem
    | remove_jwt_issuer id =>
      obtain ⟨i, hi, hg⟩ := onIssuers_eq_ok.mp happly
      obtain ⟨calls, rfl⟩ := removeJwtIssuer_ok hi
      rw [← hg]
      intro issuer metadata hissuer hrefreshes
      rw [Table.getElem?_delete] at hissuer
      split at hissuer
      · cases hissuer
      · exact (h issuer metadata hissuer hrefreshes).of_bundles fun _ _ hmem => hmem
    | _ => simp [Action.writes] at hwrites
  · have hframe : (step g e).issuers = g.issuers := frame_of_ok happly .issuers hwrites
    rwa [hframe]

/-- The removal of a bundle. -/
theorem issuers_removeCaCertBundle {g : State} {e : Enactment} {name : Text}
    (h : validate e = .ok (.remove_ca_cert_bundle name)) :
    (step g e).issuers =
      { g.issuers with ca_cert_bundles := g.issuers.ca_cert_bundles.erase name } := by
  rw [step_returns h (onIssuers_eq_ok.mpr ⟨_, rfl, rfl⟩)]

/-- An action leaves the issuers refreshable exactly when it spares the bundles they name. -/
theorem refreshable_step_iff {g : State} (h : AllRefreshable g.issuers) (e : Enactment) :
    AllRefreshable (step g e).issuers ↔ SparesBundles g e := by
  by_cases hremoves : ∃ name, validate e = .ok (.remove_ca_cert_bundle name)
  · obtain ⟨removed, hvalid⟩ := hremoves
    rw [AllRefreshable, issuers_removeCaCertBundle hvalid]
    constructor
    · intro hafter name hname issuer metadata hissuer hrefreshes hnames
      cases hvalid.symm.trans hname
      obtain ⟨other, hother, hmem⟩ := (hafter issuer metadata hissuer hrefreshes).bundle
      cases hnames.symm.trans hother
      exact (Std.ExtTreeMap.mem_erase.mp hmem).1 Std.ReflCmp.compare_self
    · intro hspares issuer metadata hissuer hrefreshes
      refine (h issuer metadata hissuer hrefreshes).of_bundles fun name hnames hmem => ?_
      refine Std.ExtTreeMap.mem_erase.mpr ⟨fun heq => ?_, hmem⟩
      cases Std.LawfulEqOrd.eq_of_compare heq
      exact hspares removed hvalid issuer metadata hissuer hrefreshes hnames
  · have hnot : ∀ name, validate e ≠ .ok (.remove_ca_cert_bundle name) :=
      fun name hvalid => hremoves ⟨name, hvalid⟩
    exact iff_of_true (refreshable_other h hnot) fun name hvalid => absurd hvalid (hnot name)

/-- Every self-refreshing issuer can be refreshed throughout a run of enacted actions exactly
when none of them removes a bundle that such an issuer names at the time. -/
theorem refreshable_throughout_iff {g : State} (h : AllRefreshable g.issuers)
    (es : List Enactment) :
    Runs.Throughout step (fun g => AllRefreshable g.issuers) g es ↔
      Runs.Guarded step SparesBundles g es :=
  Runs.throughout_iff_guarded (P := fun g : State => AllRefreshable g.issuers)
    (fun _ e hg => refreshable_step_iff hg e) h es

/-! The bundle of an issuer that refreshes itself is removed. -/

private def issuerUrl : Text := text "https://login"

private def refreshed : Json :=
  .obj [(text "issuer", .str issuerUrl), (text "auto_refresh", .bool true),
    (text "ca_cert_bundle_name", .str (text "tls"))]

private def refreshing : State :=
  { State.empty with
    issuers := ⟨(∅ : Table Json).insert (text "tls") (.str (text "cert")),
      (∅ : Table Json).insert issuerUrl refreshed, []⟩ }

private def removeBundle : Enactment where
  ccf := .accepting
  proposalId := text "p0"
  name := text "remove_ca_cert_bundle"
  args := some (.obj [(text "name", .str (text "tls"))])

/-- The issuer cannot be refreshed any more. -/
theorem removeBundle_unrefreshable :
    ¬ Runs.Throughout step (fun g => AllRefreshable g.issuers) refreshing [removeBundle] := by
  have hall : AllRefreshable refreshing.issuers := by
    intro issuer metadata hissuer _
    rw [refreshing, Table.getElem?_set] at hissuer
    split at hissuer
    · next hid =>
      cases hissuer
      cases hid
      exact ⟨⟨text "tls", rfl, Std.ExtTreeMap.mem_insert_self⟩, by decide, by decide, by decide⟩
    · simp at hissuer
  rw [refreshable_throughout_iff hall]
  intro hguarded
  exact hguarded [] removeBundle List.prefix_rfl (text "tls") rfl issuerUrl refreshed
    (Std.ExtTreeMap.getElem?_insert_self) rfl rfl

end CcfIdentity.Constitution
