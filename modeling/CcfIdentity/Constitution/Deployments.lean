import CcfIdentity.Constitution.Steps

/-!
# Deployed applications

The tables of the application along a run. Deploying one clears what the last one left and
records its own modules and endpoints, so that the tables are always those of the last
application deployed, and every endpoint in them names a module in them.
-/

open Utf16

namespace CcfIdentity.Constitution

/-- Every endpoint names a module that is there. -/
def Deployed (a : App) : Prop :=
  ∀ (key : Text) (info : Json), a.endpoints[key]? = some info → ∃ path source,
    info.property (text "js_module") = some (.str path) ∧ a.modules[path]? = some source

/-- What is kept of an entry of a bundle names one of its modules. -/
theorem entry_names_file {ccf : Ccf} {bundle : Bundle} {key : Text} {info : Json}
    (h : (key, info) ∈ Json.storedMembers (bundle.entries ccf)) : ∃ path source,
      info.property (text "js_module") = some (.str path) ∧
        (Table.record bundle.files ∅)[path]? = some source := by
  rw [Json.storedMembers_eq_map] at h
  obtain ⟨⟨entryKey, entry⟩, hentry, hkept⟩ := List.mem_map.mp h
  obtain ⟨⟨url, methods⟩, -, hmethods⟩ := List.mem_flatMap.mp hentry
  obtain ⟨e, -, he⟩ := List.mem_map.mp hmethods
  cases he
  cases hkept
  obtain ⟨m, hm, hname⟩ := e.found
  have hfile : (modulePath e.js_module, m.source) ∈ bundle.files :=
    List.mem_map.mpr ⟨m, hm, by rw [hname]⟩
  obtain ⟨source, hsource⟩ := Table.record_of_mem hfile ∅
  have hnames : e.entry.property (text "js_module") = some (.str (modulePath e.js_module)) :=
    Json.lookup_setMember_self _ _ _
  refine ⟨_, source, ?_, hsource⟩
  rw [Json.property_stored, hnames]
  rfl

/-- What the actions do to modules and endpoints. -/
theorem app_step_cases (g : State) (e : Enactment) :
    ((step g e).app.modules = g.app.modules ∧ (step g e).app.endpoints = g.app.endpoints) ∨
      (∃ args, validate e = .ok (.set_js_app args) ∧ args.Loads e.ccf ∧
        (step g e).app.modules = Table.record args.bundle.files ∅ ∧
        (step g e).app.endpoints =
          Table.record (Json.storedMembers (args.bundle.entries e.ccf)) ∅) ∨
      validate e = .ok .remove_js_app ∧ (step g e).app.modules = ∅ ∧
        (step g e).app.endpoints = ∅ := by
  rcases step_cases g e with hsame | ⟨action, hvalid, happly⟩
  · exact .inl (by rw [hsame]; exact ⟨rfl, rfl⟩)
  cases action with
  | set_js_app args =>
    obtain ⟨a', ha, hg⟩ := onApp_eq_ok.mp happly
    rw [← hg]
    exact .inr (.inl ⟨args, hvalid, setJsApp_ok ha⟩)
  | remove_js_app =>
    obtain ⟨a', ha, hg⟩ := onApp_eq_ok.mp happly
    rw [← hg, ← Program.write_eq_ok.mp ha]
    exact .inr (.inr ⟨hvalid, rfl, rfl⟩)
  | refresh_js_app_bytecode_cache =>
    obtain ⟨a', ha, hg⟩ := onApp_eq_ok.mp happly
    rw [refreshJsAppBytecodeCache, Program.write_bind] at ha
    rw [← hg, ← (Program.check_eq_ok.mp ha).2]
    exact .inl ⟨rfl, rfl⟩
  | _ =>
    have happ : (step g e).app = g.app := frame_of_ok happly .app (by simp [Action.writes])
    exact .inl (by rw [happ]; exact ⟨rfl, rfl⟩)

/-- One action leaves every endpoint with its module. -/
theorem deployed_step (g : State) (e : Enactment) (h : Deployed g.app) :
    Deployed (step g e).app := by
  rcases app_step_cases g e with ⟨hmodules, hendpoints⟩ |
    ⟨args, -, -, hmodules, hendpoints⟩ | ⟨-, hmodules, hendpoints⟩
  · intro key info hinfo
    rw [hendpoints] at hinfo
    rw [hmodules]
    exact h key info hinfo
  · intro key info hinfo
    rw [hendpoints] at hinfo
    rw [hmodules]
    exact entry_names_file (Table.mem_of_record hinfo)
  · intro key info hinfo
    rw [hendpoints] at hinfo
    simp at hinfo

/-- After every run from empty tables every endpoint names a module that is there. -/
theorem deployed_run (es : List Enactment) : Deployed (Runs.run step State.empty es).app :=
  Runs.run_preserves (I := fun s : State => Deployed s.app) deployed_step
    (fun key info hinfo => by simp [State.empty] at hinfo) es

/-! ### Which code an endpoint runs -/

/-- The module an endpoint's entry names. -/
def moduleOf (info : Json) : Option Text :=
  match info.property (text "js_module") with
  | some (.str path) => some path
  | _ => none

/-- JSON text keeps the module an endpoint's entry names. -/
theorem moduleOf_stored (info : Json) : moduleOf info.stored = moduleOf info := by
  rw [moduleOf, moduleOf, Json.property_stored]
  cases hmodule : info.property (text "js_module") with
  | none => rfl
  | some v =>
    cases v with
    | num d => by_cases hoverflows : d.overflows = true <;> simp [Json.stored, hoverflows]
    | _ => rfl

/-- The source of the module an endpoint names. -/
def App.code (a : App) (key : Text) : Option Text :=
  (a.endpoints[key]?.bind moduleOf).bind fun path => a.modules[path]?

/-- The source a bundle has for an endpoint, of which the last entry counts. -/
def Bundle.code (ccf : Ccf) (bundle : Bundle) (key : Text) : Option Text :=
  (((bundle.entries ccf).reverse.lookup key).bind moduleOf).bind fun path =>
    bundle.files.reverse.lookup path

/-- The action deploys an application. -/
def Deploys (args : SetJsApp) (e : Enactment) : Prop :=
  validate e = .ok (.set_js_app args) ∧ args.Loads e.ccf

theorem code_deploys {args : SetJsApp} {e : Enactment} (h : Deploys args e) (g : State)
    (key : Text) : (step g e).app.code key = args.bundle.code e.ccf key := by
  obtain ⟨a', ha⟩ := setJsApp_returns h.2 g.app
  have hstep : step g e = { g with app := a' } :=
    step_returns h.1 (onApp_eq_ok.mpr ⟨a', ha, rfl⟩)
  obtain ⟨-, hmodules, hendpoints⟩ := setJsApp_ok ha
  rw [hstep, App.code, hmodules, hendpoints, Bundle.code, Table.getElem?_record,
    Std.ExtTreeMap.getElem?_empty, Option.or_none]
  have hkept : (Json.storedMembers (args.bundle.entries e.ccf)).reverse.lookup key =
      ((args.bundle.entries e.ccf).reverse.lookup key).map Json.stored := by
    rw [Json.storedMembers_eq_map, ← List.map_reverse, ← Json.storedMembers_eq_map,
      Json.lookup_storedMembers]
  simp only [hkept, Option.bind_map, Function.comp_def, moduleOf_stored]
  congr 1
  funext path
  rw [Table.getElem?_record, Std.ExtTreeMap.getElem?_empty, Option.or_none]

theorem code_removes {e : Enactment} (h : validate e = .ok .remove_js_app) (g : State)
    (key : Text) : (step g e).app.code key = none := by
  have hstep : (step g e).app.endpoints = ∅ := by
    rw [step_returns h (onApp_eq_ok.mpr ⟨_, Program.write_eq_ok.mpr rfl, rfl⟩)]
  rw [App.code, hstep, Std.ExtTreeMap.getElem?_empty]
  rfl

/-- The action takes away what endpoints ran before. -/
def Replaces (e : Enactment) : Prop :=
  (∃ args, Deploys args e) ∨ validate e = .ok .remove_js_app

/-- After an action an endpoint runs the code of the bundle the action deploys, or the code it
ran before. -/
theorem code_step (g : State) (e : Enactment) (key source : Text) :
    (step g e).app.code key = some source ↔
      (∃ args, Deploys args e ∧ args.bundle.code e.ccf key = some source) ∨
        g.app.code key = some source ∧ ¬ Replaces e := by
  by_cases hdeploys : ∃ args, Deploys args e
  · obtain ⟨args, hdeploys⟩ := hdeploys
    rw [code_deploys hdeploys]
    constructor
    · exact fun h => .inl ⟨args, hdeploys, h⟩
    · rintro (⟨args', hdeploys', h⟩ | ⟨-, h⟩)
      · cases hdeploys.1.symm.trans hdeploys'.1
        exact h
      · exact absurd (.inl ⟨args, hdeploys⟩) h
  have hnone : ¬ ∃ args, Deploys args e ∧ args.bundle.code e.ccf key = some source :=
    fun ⟨args, h, _⟩ => hdeploys ⟨args, h⟩
  by_cases hremoves : validate e = .ok .remove_js_app
  · rw [code_removes hremoves]
    apply iff_of_false
    · simp
    · rintro (h | ⟨-, h⟩)
      · exact hnone h
      · exact h (.inr hremoves)
  · have hkept : ¬ Replaces e := fun h => h.elim hdeploys hremoves
    rcases app_step_cases g e with ⟨hmodules, hendpoints⟩ | ⟨args, hvalid, hloads, -⟩ |
      ⟨hvalid, -⟩
    · rw [App.code, hmodules, hendpoints, ← App.code]
      constructor
      · exact fun h => .inr ⟨h, hkept⟩
      · exact fun h => (h.resolve_left hnone).1
    · exact absurd ⟨args, hvalid, hloads⟩ hdeploys
    · exact absurd hvalid hremoves

/-- After a run from empty tables an endpoint runs a source exactly when the last deployment of
the run gives it that source and no application is removed after it. -/
theorem code_iff_since (es : List Enactment) (key source : Text) :
    (Runs.run step State.empty es).app.code key = some source ↔
      Runs.Since step
        (fun _ e => ∃ args, Deploys args e ∧ args.bundle.code e.ccf key = some source)
        (fun _ e => Replaces e) State.empty es := by
  refine Runs.iff_since (I := fun _ => True)
    (Q := fun s => s.app.code key = some source) (fun _ _ _ => trivial)
    (fun s e _ => code_step s e key source) trivial ?_ es
  simp [App.code, State.empty]

end CcfIdentity.Constitution
