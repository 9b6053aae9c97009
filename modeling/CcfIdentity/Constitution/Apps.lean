import CcfIdentity.Constitution.Checks
import CcfIdentity.Constitution.Tables

/-!
# The application

The actions on the application's bundle, `samples/logapp/constitution/actions.js:629–757`.
The checks hand on a bundle in which every endpoint comes with the module of the bundle it
names.
-/

open Utf16

namespace CcfIdentity.Constitution

/-- `Object.entries` of a value that is an object for `typeof`. -/
def entries : Json → Except Fault (List (Text × Json))
  | .null => .error .typeError
  | .arr elements => .ok (elements.zipIdx.map fun (v, i) => (text (toString i), v))
  | .obj members => .ok members
  | _ => .ok []

/-- The members of a value that is an object with members. -/
def membersOf : Json → List (Text × Json)
  | .obj members => members
  | _ => []

theorem property_membersOf (v : Json) (name : Text) :
    (membersOf v).lookup name = v.property name := by
  cases v <;> rfl

/-- A module of a bundle. -/
structure AppModule where
  name : Text
  source : Text

/-- An endpoint of a bundle: its method, what the bundle says of it and its module, which
is one of the bundle's. -/
structure Endpoint (modules : List AppModule) where
  method : Text
  members : List (Text × Json)
  js_module : Text
  found : ∃ m ∈ modules, m.name = js_module

/-- An application, with the endpoints of each URL. -/
structure Bundle where
  modules : List AppModule
  endpoints : List (Text × List (Endpoint modules))

/-- What the checks leave of the arguments of `set_js_app`. -/
structure SetJsApp where
  bundle : Bundle
  disable_bytecode_cache : Option Bool

/-- Lines 637–641, of one module. -/
def checkModule (name : Message) (module : Json) : Except Fault AppModule := do
  let module : Json ← checkType .object (some module) name
  let moduleName : Text ← checkType .string (← field (some module) "name") (name ++ lit ".name")
  let source : Text ← checkType .string (← field (some module) "module") (name ++ lit ".module")
  return { name := moduleName, source }

/-- Lines 651–681, of one endpoint. -/
def checkEndpoint (modules : List AppModule) (name : Message) (method : Text) (info : Json) :
    Except Fault (Endpoint modules) := do
  let info : Json ← checkType .object (some info) name
  let js_module : Text ← checkType .string (← field (some info) "js_module")
    (name ++ lit ".js_module")
  let _ ← checkType .string (← field (some info) "js_function") (name ++ lit ".js_function")
  checkEnum (← field (some info) "mode") ["readwrite", "readonly", "historical"]
    (name ++ lit ".mode")
  checkEnum (← field (some info) "forwarding_required") ["sometimes", "always", "never"]
    (name ++ lit ".forwarding_required")
  let _ ← checkOptional .object (← field (some info) "openapi") (name ++ lit ".openapi")
  let _ ← checkOptional .boolean (← field (some info) "openapi_hidden")
    (name ++ lit ".openapi_hidden")
  let policies : List Json ← checkType .array (← field (some info) "authn_policies")
    (name ++ lit ".authn_policies")
  policies.zipIdx.forM fun (policy, i) => do
    let _ ← checkType .string (some policy) (item (name ++ lit ".authn_policies") i)
  if found : ∃ m ∈ modules, m.name = js_module then
    return { method, members := membersOf info, js_module, found }
  else
    throw (errorOf (lit "module '" ++ [.text js_module] ++ lit "' not found in bundle"))

/-- Lines 631–690. -/
def validateSetJsApp (args : Option Json) : Except Fault SetJsApp := do
  let bundle : Json ← checkType .object (← field args "bundle") (lit "bundle")
  let moduleList : List Json ← checkType .array (← field (some bundle) "modules")
    (lit "bundle.modules")
  let modules ← moduleList.zipIdx.mapM fun (module, i) =>
    checkModule (item (lit "bundle.modules") i) module
  let metadata : Json ← checkType .object (← field (some bundle) "metadata")
    (lit "bundle.metadata")
  let urls : Json ← checkType .object (← field (some metadata) "endpoints")
    (lit "bundle.metadata.endpoints")
  let endpoints ← (← entries urls).mapM fun (url, endpoint) => do
    let path := lit "bundle.metadata.endpoints[\"" ++ [.text url] ++ lit "\"]"
    let endpoint : Json ← checkType .object (some endpoint) path
    let methods ← (← entries endpoint).mapM fun (method, info) =>
      checkEndpoint modules (path ++ lit "[\"" ++ [.text method] ++ lit "\"]") method info
    return (url, methods)
  let disable_bytecode_cache ← checkOptional .boolean (← field args "disable_bytecode_cache")
    (lit "disable_bytecode_cache")
  return { bundle := { modules, endpoints }, disable_bytecode_cache }

/-- The path of a module in the table. -/
def modulePath (name : Text) : Text := text "/" ++ name

/-- The key of an endpoint, line 720. -/
def endpointKey (ccf : Ccf) (method url : Text) : Text :=
  ccf.toUpperCase method ++ text " " ++ url

/-- What the table holds of an endpoint. -/
def Endpoint.entry {modules : List AppModule} (e : Endpoint modules) : Json :=
  .obj (Json.setMember (text "js_module") (.str (modulePath e.js_module)) e.members)

/-- The endpoints of a bundle in the order in which they are recorded. -/
def Bundle.entries (ccf : Ccf) (bundle : Bundle) : List (Text × Json) :=
  bundle.endpoints.flatMap fun (url, methods) =>
    methods.map fun e => (endpointKey ccf e.method url, e.entry)

/-- Lines 702–707. -/
def recordModules (modules : List AppModule) : Program Fault App Unit :=
  .forEach (fun module => .write fun a =>
    { a with modules := a.modules.insert (modulePath module.name) module.source }) modules

/-- Lines 709–714. -/
def cacheBytecode (ccf : Ccf) (disable_bytecode_cache : Option Bool) : Program Fault App Unit :=
  if disable_bytecode_cache = some true then
    .write fun a => { a with modules_quickjs_bytecode := ∅, modules_quickjs_version := ∅ }
  else do
    .write fun a => { a with calls := a.calls ++ [.refreshAppBytecodeCache] }
    .check (ccf.answer .refreshAppBytecodeCache)

/-- Lines 716–727. -/
def recordEndpoints (ccf : Ccf) (entries : List (Text × Json)) : Program Fault App Unit :=
  .forEach (fun entry => do
    let info ← .check (ccf.jsonCompatibleToBuf (some entry.2))
    .write fun a => { a with endpoints := a.endpoints.insert entry.1 info }) entries

/-- Lines 691–728. -/
def setJsApp (ccf : Ccf) (args : SetJsApp) : Program Fault App Unit := do
  .write fun a => { a with modules := ∅, endpoints := ∅ }
  recordModules args.bundle.modules
  cacheBytecode ccf args.disable_bytecode_cache
  recordEndpoints ccf (args.bundle.entries ccf)

/-- Lines 735–746. -/
def removeJsApp : Program Fault App Unit :=
  .write fun a => { a with
    modules := ∅
    modules_quickjs_bytecode := ∅
    modules_quickjs_version := ∅
    endpoints := ∅ }

/-- Lines 753–755. -/
def refreshJsAppBytecodeCache (ccf : Ccf) : Program Fault App Unit := do
  .write fun a => { a with calls := a.calls ++ [.refreshAppBytecodeCache] }
  .check (ccf.answer .refreshAppBytecodeCache)

/-! ### What deployment leaves -/

/-- The modules of a bundle by their paths. -/
def Bundle.files (bundle : Bundle) : List (Text × Text) :=
  bundle.modules.map fun m => (modulePath m.name, m.source)

theorem recordModules_apply (bundle : Bundle) (a : App) :
    recordModules bundle.modules a =
      (.ok (), { a with modules := Table.record bundle.files a.modules }) := by
  rw [recordModules, Program.forEach_write, Bundle.files]
  congr 1
  induction bundle.modules generalizing a with
  | nil => rfl
  | cons m rest ih => exact ih _

theorem recordEndpoints_apply (ccf : Ccf) (entries : List (Text × Json)) (a : App) :
    recordEndpoints ccf entries a =
      (.ok (), { a with endpoints := Table.record (Json.storedMembers entries) a.endpoints }) := by
  induction entries generalizing a with
  | nil => rfl
  | cons entry rest ih =>
    rcases entry with ⟨key, info⟩
    rw [recordEndpoints, Program.forEach, ccf.jsonCompatibleToBuf_value]
    exact ih { a with endpoints := a.endpoints.insert key info.stored }

/-- The node takes the application's bytecode, or is not asked to. -/
def SetJsApp.Loads (ccf : Ccf) (args : SetJsApp) : Prop :=
  args.disable_bytecode_cache = some true ∨ ∃ u, ccf.answer .refreshAppBytecodeCache = .ok u

/-- Caching leaves modules and endpoints alone. -/
theorem cacheBytecode_ok {ccf : Ccf} {args : SetJsApp} {a a' : App}
    (h : cacheBytecode ccf args.disable_bytecode_cache a = (.ok (), a')) :
    args.Loads ccf ∧ a'.modules = a.modules ∧ a'.endpoints = a.endpoints := by
  rw [cacheBytecode, Program.ite_apply] at h
  split at h
  · next hdisabled =>
    rw [← Program.write_eq_ok.mp h]
    exact ⟨.inl hdisabled, rfl, rfl⟩
  · rw [Program.write_bind] at h
    obtain ⟨hanswer, rfl⟩ := Program.check_eq_ok.mp h
    exact ⟨.inr ⟨(), hanswer⟩, rfl, rfl⟩

/-- Deployment that returns leaves the modules of the bundle and what is kept of its endpoints,
and no others. -/
theorem setJsApp_ok {ccf : Ccf} {args : SetJsApp} {a a' : App}
    (h : setJsApp ccf args a = (.ok (), a')) :
    args.Loads ccf ∧ a'.modules = Table.record args.bundle.files ∅ ∧
      a'.endpoints = Table.record (Json.storedMembers (args.bundle.entries ccf)) ∅ := by
  rw [setJsApp, Program.write_bind, Program.bind_apply, recordModules_apply,
    Program.andThen_ok] at h
  obtain ⟨u, a₁, hcache, h⟩ := Program.bind_eq_ok.mp h
  obtain ⟨hloads, hmodules, hendpoints⟩ := cacheBytecode_ok hcache
  rw [recordEndpoints_apply, Prod.mk.injEq] at h
  rw [← h.2]
  exact ⟨hloads, hmodules, by rw [hendpoints]⟩

/-- Deployment returns where the node takes the bytecode. -/
theorem setJsApp_returns {ccf : Ccf} {args : SetJsApp} (h : args.Loads ccf) (a : App) :
    ∃ a', setJsApp ccf args a = (.ok (), a') := by
  rw [setJsApp, Program.write_bind, Program.bind_apply, recordModules_apply,
    Program.andThen_ok, Program.bind_apply, cacheBytecode, Program.ite_apply]
  split
  · exact ⟨_, recordEndpoints_apply ccf _ _⟩
  · next hcached =>
    obtain ⟨u, hanswer⟩ := h.resolve_left hcached
    rw [Program.write_bind, hanswer, Program.check_apply, Program.andThen_ok]
    exact ⟨_, recordEndpoints_apply ccf _ _⟩

end CcfIdentity.Constitution
