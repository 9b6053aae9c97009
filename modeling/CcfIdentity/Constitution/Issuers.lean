import CcfIdentity.Constitution.Apps
import CcfIdentity.Constitution.Url

/-!
# Token issuers

The actions on certificate bundles and token issuers,
`samples/logapp/constitution/actions.js:759–899`. An issuer's entry is its arguments without
the keys, which the node is given.
-/

open Utf16

namespace CcfIdentity.Constitution

/-- What the checks leave of the arguments of `set_ca_cert_bundle`. -/
structure SetCaCertBundle where
  name : Text
  cert_bundle : Option Json

/-- Lines 761–764. -/
def validateSetCaCertBundle (ccf : Ccf) (args : Option Json) : Except Fault SetCaCertBundle := do
  let name : Text ← checkType .string (← field args "name") (lit "name")
  let cert_bundle ← field args "cert_bundle"
  checkX509CertBundle ccf cert_bundle (lit "cert_bundle")
  return { name, cert_bundle }

/-- Lines 765–771. -/
def setCaCertBundle (ccf : Ccf) (args : SetCaCertBundle) : Program Fault Issuers Unit := do
  let bundle ← .check (ccf.jsonCompatibleToBuf args.cert_bundle)
  .write fun i => { i with ca_cert_bundles := i.ca_cert_bundles.insert args.name bundle }

/-- Lines 777–779. -/
def validateRemoveCaCertBundle (args : Option Json) : Except Fault Text := do
  checkType .string (← field args "name") (lit "name")

/-- Lines 780–784. -/
def removeCaCertBundle (name : Text) : Program Fault Issuers Unit :=
  .write fun i => { i with ca_cert_bundles := i.ca_cert_bundles.erase name }

/-- The arguments of `set_jwt_issuer` after their checks. -/
structure SetJwtIssuer where
  members : List (Text × Json)
  issuer : Text

/-- Lines 795–809. -/
def checkKeyPolicy (key_policy : Option Json) : Except Fault Unit := do
  let _ ← checkOptional .object key_policy (lit "key_policy")
  if truthy key_policy then
    let sgx_claims ← field key_policy "sgx_claims"
    let claims : Option Json ← checkOptional .object sgx_claims (lit "key_policy.sgx_claims")
    match claims with
    | none => pure ()
    | some claims =>
      (← entries claims).forM fun (name, value) => do
        let _ ← checkType .string (some value)
          (lit "key_policy.sgx_claims[\"" ++ [.text name] ++ lit "\"]")

/-- Lines 815–835. -/
def checkAutoRefresh (issuer : Text) (ca_cert_bundle_name : Option Json) : Except Fault Unit := do
  refuseIf (truthy ca_cert_bundle_name = false)
    (lit "ca_cert_bundle_name is missing but required if auto_refresh is true")
  -- The expression matches every string, so nothing is caught here.
  let url := parseUrl issuer
  refuseIf (url.scheme ≠ some (text "https"))
    (lit "issuer must be a URL starting with https:// if auto_refresh is true")
  refuseIf (url.query.getD [] ≠ [] ∨ url.fragment.getD [] ≠ [])
    (lit "issuer must be a URL without query/fragment if auto_refresh is true")

/-- Lines 790–837. -/
def validateSetJwtIssuer (ccf : Ccf) (args : Option Json) : Except Fault SetJwtIssuer := do
  let issuer : Text ← checkType .string (← field args "issuer") (lit "issuer")
  let auto_refresh ← field args "auto_refresh"
  let _ ← checkOptional .boolean auto_refresh (lit "auto_refresh")
  let ca_cert_bundle_name ← field args "ca_cert_bundle_name"
  let _ ← checkOptional .string ca_cert_bundle_name (lit "ca_cert_bundle_name")
  checkEnum (← field args "key_filter") ["all", "sgx"] (lit "key_filter")
  checkKeyPolicy (← field args "key_policy")
  let jwks ← field args "jwks"
  let _ ← checkOptional .object jwks (lit "jwks")
  if truthy jwks then
    checkJwks ccf jwks (lit "jwks")
  if truthy auto_refresh then
    checkAutoRefresh issuer ca_cert_bundle_name
  return { members := args.elim [] membersOf, issuer }

/-- Lines 839–851. -/
def checkBundle (ccf : Ccf) (i : Issuers) (members : List (Text × Json)) :
    Except Fault Unit := do
  if truthy (members.lookup (text "auto_refresh")) then
    let caCertBundleName ← ccf.strToBuf (members.lookup (text "ca_cert_bundle_name"))
    refuseIf (i.ca_cert_bundles.contains caCertBundleName = false)
      (lit "No CA cert bundle found with name '" ++ [.text caCertBundleName] ++ lit "'")

/-- Lines 856–858. -/
def giveKeys (ccf : Ccf) (issuer : Text) (metadata : Json) (jwks : Option Json) :
    Program Fault Issuers Unit :=
  match jwks with
  | none => pure ()
  | some keys =>
    if keys.truthy then do
      .write fun i => { i with calls := i.calls ++ [.setJwtPublicSigningKeys issuer metadata keys] }
      .check (ccf.answer (.setJwtPublicSigningKeys issuer metadata keys))
    else pure ()

/-- What is kept of an issuer, lines 853–855. -/
def SetJwtIssuer.metadata (args : SetJwtIssuer) : Json :=
  .obj (args.members.filter fun m => m.1 ≠ text "jwks")

/-- Lines 838–862. -/
def setJwtIssuer (ccf : Ccf) (args : SetJwtIssuer) : Program Fault Issuers Unit := do
  let i ← .read id
  .check (checkBundle ccf i args.members)
  giveKeys ccf args.issuer args.metadata (args.members.lookup (text "jwks"))
  let metadata ← .check (ccf.jsonCompatibleToBuf (some args.metadata))
  .write fun i => { i with issuers := i.issuers.insert args.issuer metadata }

/-- What the checks leave of the arguments of `set_jwt_public_signing_keys`. -/
structure SetJwtKeys where
  issuer : Text
  jwks : Json

/-- Lines 868–871. -/
def validateSetJwtPublicSigningKeys (ccf : Ccf) (args : Option Json) :
    Except Fault SetJwtKeys := do
  let issuer : Text ← checkType .string (← field args "issuer") (lit "issuer")
  let value ← field args "jwks"
  checkJwks ccf value (lit "jwks")
  let jwks : Json ← checkType .object value (lit "jwks")
  return { issuer, jwks }

/-- Lines 872–882. -/
def setJwtPublicSigningKeys (ccf : Ccf) (args : SetJwtKeys) : Program Fault Issuers Unit := do
  let i ← .read id
  match i.issuers[args.issuer]? with
  | none => .throw (errorOf (lit "issuer " ++ [.text args.issuer] ++ lit " not found"))
  | some metadata => do
    let call := Call.setJwtPublicSigningKeys args.issuer metadata args.jwks
    .write fun i => { i with calls := i.calls ++ [call] }
    .check (ccf.answer call)

/-- Lines 888–890. -/
def validateRemoveJwtIssuer (args : Option Json) : Except Fault Text := do
  checkType .string (← field args "issuer") (lit "issuer")

/-- Lines 891–897. -/
def removeJwtIssuer (ccf : Ccf) (issuer : Text) : Program Fault Issuers Unit := do
  let i ← .read id
  if i.issuers.contains issuer then
    .write fun i => { i with issuers := i.issuers.erase issuer }
    .write fun i => { i with calls := i.calls ++ [.removeJwtPublicSigningKeys issuer] }
    .check (ccf.answer (.removeJwtPublicSigningKeys issuer))

/-! ### What the checks leave -/

/-- An issuer's entry has the properties of the arguments, but for the keys. -/
theorem property_metadata (args : SetJwtIssuer) {name : String} (h : text name ≠ text "jwks") :
    args.metadata.property (text name) = args.members.lookup (text name) := by
  rw [SetJwtIssuer.metadata, Json.property]
  induction args.members with
  | nil => rfl
  | cons m rest ih =>
    rcases m with ⟨key, v⟩
    by_cases hkey : key = text "jwks"
    · subst hkey
      simp only [ne_eq, not_true_eq_false, decide_false, Bool.false_eq_true, not_false_eq_true,
        List.filter_cons_of_neg, ih, List.lookup_cons, beq_false_of_ne h]
    · simp only [ne_eq, hkey, not_false_eq_true, decide_true, List.filter_cons_of_pos,
        List.lookup_cons, ih]

/-- A named bundle that is there is the text of its name. -/
theorem checkBundle_ok {ccf : Ccf} {i : Issuers} {members : List (Text × Json)} {u : Unit}
    (hrefreshes : truthy (members.lookup (text "auto_refresh")) = true)
    (h : checkBundle ccf i members = .ok u) :
    ∃ name, members.lookup (text "ca_cert_bundle_name") = some (.str name) ∧
      name ∈ i.ca_cert_bundles := by
  rw [checkBundle, if_pos hrefreshes, Program.except_bind_eq_ok] at h
  obtain ⟨name, hname, hcheck⟩ := h
  exact ⟨name, (ccf.strToBuf_eq_ok _ _).mp hname, by simpa using refuseIf_eq_ok.mp hcheck⟩

/-- The issuers that pass as ones to refresh. -/
theorem checkAutoRefresh_eq_ok {issuer : Text} {bundle : Option Json} {u : Unit} :
    checkAutoRefresh issuer bundle = .ok u ↔ truthy bundle = true ∧
      (parseUrl issuer).scheme = some (text "https") ∧
      (parseUrl issuer).query.getD [] = [] ∧ (parseUrl issuer).fragment.getD [] = [] := by
  simp only [checkAutoRefresh, Program.except_bind_eq_ok, refuseIf_eq_ok, exists_const,
    Bool.not_eq_false, ne_eq, not_not, not_or]

/-- A value that passes as one of a type is read as one. -/
theorem checkType_ok {type : JsType} {value : Option Json} {name : Message} {v : type.Value}
    (h : checkType type value name = .ok v) : value.bind type.read = some v := by
  rw [checkType] at h
  split at h
  · next hread =>
    cases h
    exact hread
  · cases h

/-- JSON text keeps a boolean, and a missing one. -/
theorem stored_of_checkOptional {value : Option Json} {b : Option Bool} {name : Message}
    (h : checkOptional .boolean value name = .ok b) : value.map Json.stored = value := by
  rw [checkOptional.eq_def] at h
  split at h
  · rfl
  · rfl
  · next v _ =>
    obtain ⟨b, hb, -⟩ := Program.except_map_eq_ok.mp h
    have hread := checkType_ok hb
    cases v with
    | bool => rfl
    | _ => cases hread

/-- Arguments whose entry asks for refreshing have asked for it and passed its check. -/
theorem validateSetJwtIssuer_refreshes {ccf : Ccf} {args : Option Json} {a : SetJwtIssuer}
    (h : validateSetJwtIssuer ccf args = .ok a)
    (hrefreshes : truthy ((a.members.lookup (text "auto_refresh")).map Json.stored) = true) :
    truthy (a.members.lookup (text "auto_refresh")) = true ∧
      ∃ bundle, checkAutoRefresh a.issuer bundle = .ok () := by
  obtain ⟨_, -, h⟩ := Program.except_bind_eq_ok.mp h
  obtain ⟨issuer, -, h⟩ := Program.except_bind_eq_ok.mp h
  obtain ⟨auto_refresh, hauto, h⟩ := Program.except_bind_eq_ok.mp h
  obtain ⟨_, hboolean, h⟩ := Program.except_bind_eq_ok.mp h
  obtain ⟨bundle, -, h⟩ := Program.except_bind_eq_ok.mp h
  obtain ⟨_, -, h⟩ := Program.except_bind_eq_ok.mp h
  obtain ⟨_, -, h⟩ := Program.except_bind_eq_ok.mp h
  obtain ⟨_, -, h⟩ := Program.except_bind_eq_ok.mp h
  obtain ⟨_, -, h⟩ := Program.except_bind_eq_ok.mp h
  obtain ⟨_, -, h⟩ := Program.except_bind_eq_ok.mp h
  obtain ⟨jwks, -, h⟩ := Program.except_bind_eq_ok.mp h
  obtain ⟨_, -, h⟩ := Program.except_bind_eq_ok.mp h
  -- Both ends of the check of the keys go on with the same two lines.
  have hend : (do
      if truthy auto_refresh then
        checkAutoRefresh issuer bundle
      return { members := args.elim [] membersOf, issuer : SetJwtIssuer }) = Except.ok a := by
    by_cases hjwks : truthy jwks = true
    · rw [if_pos hjwks] at h
      exact (Program.except_bind_eq_ok.mp h).choose_spec.2
    · rwa [if_neg hjwks] at h
  obtain ⟨v, rfl, rfl⟩ := field_ok hauto
  have hasked : a.members = membersOf v → truthy (v.property (text "auto_refresh")) = true := by
    intro hmembers
    rwa [hmembers, property_membersOf, stored_of_checkOptional hboolean] at hrefreshes
  by_cases hrefresh : truthy (v.property (text "auto_refresh")) = true
  · rw [if_pos hrefresh] at hend
    obtain ⟨_, hcheck, hend⟩ := Program.except_bind_eq_ok.mp hend
    cases hend
    rw [Option.elim_some, property_membersOf]
    exact ⟨hrefresh, bundle, hcheck⟩
  · rw [if_neg hrefresh] at hend
    cases hend
    exact absurd (hasked rfl) hrefresh

/-! ### What the actions leave -/

/-- The keys an issuer comes with are the node's. -/
theorem giveKeys_ok {ccf : Ccf} {issuer : Text} {metadata : Json} {jwks : Option Json}
    {i i' : Issuers} (h : giveKeys ccf issuer metadata jwks i = (.ok (), i')) :
    ∃ calls, i' = { i with calls } := by
  cases jwks with
  | none => exact ⟨i.calls, (Prod.mk.inj h).2.symm⟩
  | some keys =>
    rw [giveKeys, Program.ite_apply] at h
    split at h
    · exact ⟨_, (Program.check_eq_ok.mp h).2.symm⟩
    · exact ⟨i.calls, (Prod.mk.inj h).2.symm⟩

/-- An issuer that is set has passed the check of its bundle. -/
theorem setJwtIssuer_ok {ccf : Ccf} {args : SetJwtIssuer} {i i' : Issuers}
    (h : setJwtIssuer ccf args i = (.ok (), i')) :
    (∃ u, checkBundle ccf i args.members = .ok u) ∧ ∃ calls, i' = { i with
      issuers := i.issuers.insert args.issuer args.metadata.stored
      calls } := by
  simp only [setJwtIssuer, Program.read_bind, id_eq, Program.check_bind_eq_ok] at h
  obtain ⟨u, hcheck, h⟩ := h
  obtain ⟨u', i₁, hkeys, h⟩ := Program.bind_eq_ok.mp h
  obtain ⟨calls, rfl⟩ := giveKeys_ok hkeys
  obtain ⟨metadata, hmetadata, h⟩ := Program.check_bind_eq_ok.mp h
  cases (ccf.jsonCompatibleToBuf_value _).symm.trans hmetadata
  exact ⟨⟨u, hcheck⟩, calls, (Program.write_eq_ok.mp h).symm⟩

/-- Setting keys leaves bundles and issuers alone. -/
theorem setJwtPublicSigningKeys_ok {ccf : Ccf} {args : SetJwtKeys} {i i' : Issuers}
    (h : setJwtPublicSigningKeys ccf args i = (.ok (), i')) : ∃ calls, i' = { i with calls } := by
  simp only [setJwtPublicSigningKeys, Program.read_bind, id_eq] at h
  cases hissuer : i.issuers[args.issuer]? with
  | none => simp [hissuer] at h
  | some metadata =>
    simp only [hissuer, Program.write_bind, Program.check_eq_ok] at h
    exact ⟨_, h.2.symm⟩

/-- An issuer that is removed is gone, and nothing else but the keys at the node. -/
theorem removeJwtIssuer_ok {ccf : Ccf} {issuer : Text} {i i' : Issuers}
    (h : removeJwtIssuer ccf issuer i = (.ok (), i')) :
    ∃ calls, i' = { i with issuers := i.issuers.erase issuer, calls } := by
  simp only [removeJwtIssuer, Program.read_bind, id_eq, Program.ite_apply, Program.write_bind,
    Program.pure_apply] at h
  split at h
  · exact ⟨_, (Program.check_eq_ok.mp h).2.symm⟩
  · next hmissing =>
    refine ⟨i.calls, ?_⟩
    rw [← (Prod.mk.inj h).2, Table.delete_absent _ _ hmissing]

end CcfIdentity.Constitution
