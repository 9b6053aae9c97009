import CcfIdentity.Logapp.Dispatch

/-!
# Reading the log

What a client is shown of the log after any run of a network that serves no code but the
sample's. Where the sample answers it, the answer depends on two things only: the decision on
its token, which the package's operations and the actions on principals and groups of the run
make, and the last item posted under its key. Posting is not checked against the roles.
-/

open Utf16

namespace CcfIdentity.Logapp

/-- The event is a request that posts the item under the key. -/
def Posts (host : Host) (key : UInt32) (item : Json) (e : Event) : Prop :=
  ∃ request, e = .call (.setLogItem request) ∧ request.json = .ok item ∧
    host.key request.query = .ok key

/-- The item is the last that the events post under the key. -/
def LastPosted (host : Host) (key : UInt32) (item : Json) (es : List Event) : Prop :=
  ∃ before e after, es = before ++ e :: after ∧ Posts host key item e ∧
    ∀ later ∈ after, ∀ other, ¬ Posts host key other later

/-- The events post no item under the key. -/
def NeverPosted (host : Host) (key : UInt32) (es : List Event) : Prop :=
  ∀ e ∈ es, ∀ item, ¬ Posts host key item e

/-- What a post leaves is what is kept of its item. -/
theorem post_eq_some {host : Host} {key : UInt32} {v : Json} {e : Event} :
    post host e = some (key, v) ↔ ∃ item, Posts host key item e ∧ v = item.stored := by
  cases e with
  | enact e => simp [post, Posts]
  | call c =>
    cases c with
    | setLogItem request =>
      rw [post, posted]
      cases hitem : request.json with
      | error e => simp [Posts, hitem, Except.toOption]
      | ok item =>
        cases hkey : host.key request.query with
        | error e => simp [Posts, hkey, Except.toOption]
        | ok k => simp [Posts, hitem, hkey, Except.toOption, eq_comm]
    | _ => simp [post, posted, Posts]

/-- What a key holds after a transaction. -/
theorem getElem?_log_take (host : Host) (s : State) (e : Event) (key : UInt32) (v : Json) :
    (take host s e).log[key]? = some v ↔ (∃ item, Posts host key item e ∧ v = item.stored) ∨
      s.log[key]? = some v ∧ ¬ ∃ item, Posts host key item e := by
  have hposts : (∃ item, Posts host key item e) ↔ ∃ other, post host e = some (key, other) := by
    constructor
    · rintro ⟨item, hitem⟩
      exact ⟨_, post_eq_some.mpr ⟨item, hitem, rfl⟩⟩
    · rintro ⟨other, hother⟩
      obtain ⟨item, hitem, -⟩ := post_eq_some.mp hother
      exact ⟨item, hitem⟩
  rw [log_take, hposts, ← post_eq_some]
  cases hpost : post host e with
  | none => simp
  | some entry =>
    rcases entry with ⟨k, other⟩
    rw [Option.elim_some, logItem, Std.ExtTreeMap.getElem?_insert]
    by_cases hk : k = key
    · subst hk
      simp
    · simp [hk]

/-- The log holds what is kept of the items posted last. -/
theorem getElem?_log_run (host : Host) (es : List Event) (key : UInt32) (v : Json) :
    (Runs.run (take host) State.empty es).log[key]? = some v ↔
      ∃ item, LastPosted host key item es ∧ v = item.stored := by
  rw [Runs.iff_since (I := fun _ => True) (Q := fun s : State => s.log[key]? = some v)
    (fun _ _ _ => trivial) (fun s e _ => getElem?_log_take host s e key v) trivial
    (by simp [State.empty]) es]
  simp only [Runs.Since, Runs.guarded_const, not_exists]
  constructor
  · rintro ⟨before, e, after, hsplit, ⟨item, hitem, hv⟩, hafter⟩
    exact ⟨item, ⟨before, e, after, hsplit, hitem, hafter⟩, hv⟩
  · rintro ⟨item, ⟨before, e, after, hsplit, hitem, hafter⟩, hv⟩
    exact ⟨before, e, after, hsplit, ⟨item, hitem, hv⟩, hafter⟩

/-- A key holds nothing while nothing is posted under it. -/
theorem getElem?_log_none (host : Host) (es : List Event) (key : UInt32) :
    (Runs.run (take host) State.empty es).log[key]? = none ↔ NeverPosted host key es := by
  induction es using List.reverseRecOn with
  | nil => simp [State.empty, NeverPosted]
  | append_singleton es e ih =>
    have hsplit : NeverPosted host key (es ++ [e]) ↔
        NeverPosted host key es ∧ ∀ item, ¬ Posts host key item e := by
      simp [NeverPosted, or_imp, forall_and]
    rw [Runs.run_concat, hsplit, ← ih, Option.eq_none_iff_forall_ne_some]
    simp only [ne_eq, getElem?_log_take, not_or, not_and, not_not]
    constructor
    · intro h
      have hnot : ∀ item, ¬ Posts host key item e :=
        fun item hitem => (h item.stored).1 ⟨item, hitem, rfl⟩
      refine ⟨Option.eq_none_iff_forall_ne_some.mpr fun v hv => ?_, hnot⟩
      obtain ⟨item, hitem⟩ := (h v).2 hv
      exact hnot item hitem
    · rintro ⟨hnone, hnot⟩ v
      refine ⟨?_, fun hv => absurd (hnone.symm.trans hv) (by simp)⟩
      rintro ⟨item, hitem, -⟩
      exact hnot item hitem

/-! ### One request -/

/-- What a request to read an item is answered. -/
theorem getLogItem_eq_ok {host : Host} {request : Request Unit} {t t' : Tables}
    {r : Response Json} :
    getLogItem host request t = (.ok r, t') ↔ t = t' ∧
      (checkAccess host.jwt_decode t.store request.toRequest = .ok false ∧
          r = { statusCode := some 403, body := none } ∨
        checkAccess host.jwt_decode t.store request.toRequest = .ok true ∧
          ∃ key, host.key request.query = .ok key ∧ r = reply t.log[key]?) := by
  rw [getLogItem, Program.read_bind, id_eq, Program.check_bind_eq_ok]
  simp only [lift_eq_ok]
  constructor
  · rintro ⟨access, haccess, h⟩
    cases access with
    | false =>
      obtain ⟨hr, ht⟩ := Prod.mk.inj h
      exact ⟨ht, .inl ⟨haccess, (Except.ok.inj hr).symm⟩⟩
    | true =>
      obtain ⟨key, hkey, h⟩ := Program.check_bind_eq_ok.mp h
      obtain ⟨hr, ht⟩ := Prod.mk.inj h
      exact ⟨ht, .inr ⟨haccess, key, hkey, (Except.ok.inj hr).symm⟩⟩
  · rintro ⟨rfl, ⟨haccess, rfl⟩ | ⟨haccess, key, hkey, rfl⟩⟩
    · exact ⟨false, haccess, rfl⟩
    · exact ⟨true, haccess, Program.check_bind_eq_ok.mpr ⟨key, hkey, rfl⟩⟩

/-- The answer of the sample to a request to read an item, after a run of the network. -/
def answerAfter (node : Node) (es : List Event) (request : Request Unit) :
    Option (Except Exception (Response Json)) :=
  let s := Runs.run (step node) State.empty es
  if serves node s.governance (.call (.getLogItem request)) then
    some (getLogItem node.toHost request s.open).1
  else none

/-- The sample answers the request after the run: it is deployed, and the caller is let in. -/
def Answers (node : Node) (es : List Event) (request : Request Unit) : Prop :=
  serves node (Runs.run governed Constitution.State.empty es) (.call (.getLogItem request)) = true

/-- The decision on a request that the events about roles, assignments and members make. -/
def decisionAfter (node : Node) (es : List Event) (request : Request Unit) :
    Except Failure Bool :=
  checkAccess node.jwt_decode (Runs.run CcfIdentity.step Store.empty
    ((served node Constitution.State.empty es).filterMap rbacEvent)) request.toRequest

/-- The transactions of a run. -/
def taken (node : Node) (es : List Event) : State :=
  Runs.run (take node.toHost) State.empty (served node Constitution.State.empty es)

/-- What a request is answered after a run. -/
theorem answerAfter_eq_ok {node : Node} {es : List Event}
    (hown : OnlySample node Constitution.State.empty es) {request : Request Unit}
    {r : Response Json} : answerAfter node es request = some (.ok r) ↔
      Answers node es request ∧
        (decisionAfter node es request = .ok false ∧
            r = { statusCode := some 403, body := none } ∨
          decisionAfter node es request = .ok true ∧
            ∃ key, node.key request.query = .ok key ∧ r = reply (taken node es).log[key]?) := by
  have hrun : Runs.run (step node) State.empty es = taken node es := run_eq_take hown
  have hstore : (taken node es).tables.store = Runs.run CcfIdentity.step Store.empty
      ((served node Constitution.State.empty es).filterMap rbacEvent) := by
    rw [taken, run_take]
    rfl
  have hanswers : serves node (taken node es).governance (.call (.getLogItem request)) = true ↔
      Answers node es request := by
    rw [← hrun, governance_run]
    rfl
  have hsame : (getLogItem node.toHost request (taken node es).open).1 = .ok r ↔
      getLogItem node.toHost request (taken node es).open =
        (.ok r, (taken node es).open) := by
    constructor
    · exact fun h => Prod.ext h (readOnly_getLogItem node.toHost request _)
    · exact fun h => congrArg Prod.fst h
  rw [answerAfter, hrun, ← hanswers, decisionAfter, ← hstore]
  split
  · next hserves =>
    rw [Option.some_inj, hsame, getLogItem_eq_ok, eq_self, true_and, and_iff_right hserves]
    rfl
  · next hserves => simp [hserves]

theorem item_eq_reply {found : Option Json} {v : Json} :
    .of v = reply found ↔ found = some v := by
  cases found <;> simp [reply, Response.of, eq_comm]

/-- The item a request is answered with. -/
theorem answerAfter_item {node : Node} {es : List Event}
    (hown : OnlySample node Constitution.State.empty es) {request : Request Unit} {v : Json} :
    answerAfter node es request = some (.ok (.of v)) ↔ Answers node es request ∧
      decisionAfter node es request = .ok true ∧ ∃ key, node.key request.query = .ok key ∧
        ∃ item, LastPosted node.toHost key item (served node Constitution.State.empty es) ∧
          v = item.stored := by
  simp only [answerAfter_eq_ok hown, item_eq_reply, taken, getElem?_log_run]
  simp [Response.of]

/-- After any run of a network that serves no code but the sample's, the sample answers a request
to read an item with what is kept of the last one posted under its key where the roles let the
token in, tells it where there is none, and turns away those they do not let in, whether there is an item or
not; all of this where it is deployed and lets the caller in. -/
theorem answerAfter_iff {node : Node} {es : List Event}
    (hown : OnlySample node Constitution.State.empty es) (request : Request Unit) :
    (∀ v, answerAfter node es request = some (.ok (.of v)) ↔
      Answers node es request ∧ decisionAfter node es request = .ok true ∧
        ∃ key, node.key request.query = .ok key ∧
          ∃ item, LastPosted node.toHost key item (served node Constitution.State.empty es) ∧
            v = item.stored) ∧
    (answerAfter node es request = some (.ok { statusCode := some 404, body := none }) ↔
      Answers node es request ∧ decisionAfter node es request = .ok true ∧
        ∃ key, node.key request.query = .ok key ∧
          NeverPosted node.toHost key (served node Constitution.State.empty es)) ∧
    (answerAfter node es request = some (.ok { statusCode := some 403, body := none }) ↔
      Answers node es request ∧ decisionAfter node es request = .ok false) := by
  have hmissing : ∀ found : Option Json,
      { statusCode := some 404, body := none } = reply found ↔ found = none := by
    intro found
    cases found <;> simp [reply, Response.of]
  have hdenied : ∀ found : Option Json,
      { statusCode := some 403, body := none } ≠ reply found := by
    intro found
    cases found <;> simp [reply, Response.of]
  refine ⟨fun v => answerAfter_item hown, ?_, ?_⟩
  · simp only [answerAfter_eq_ok hown, hmissing, taken, getElem?_log_none]
    simp
  · simp [answerAfter_eq_ok hown, hdenied]

/-- The bearer has no role, so that the item is not shown. -/
theorem deployed_answerAfter :
    answerAfter logNode (deployed ++ [postHello]) (numbered "id" [7] (.error .syntaxError)) =
      some (.ok { statusCode := some 403, body := none }) := by
  refine (answerAfter_iff onlySample_deployed _).2.2.mpr ⟨?_, ?_⟩
  · rw [Answers]
    decide +kernel
  · rw [decisionAfter, served_deployed]
    rfl

/-- An item posted under a number, where posts are served, is read back under the number as it is
kept, however the number is written and whatever else happens, until another is posted under it,
by those whom the roles let in and where reads are served. -/
theorem read_back {node : Node} (hhost : node.KeepsNumbers) {posting : Request Json}
    {reading : Request Unit} {item : Json} (hitem : posting.json = .ok item)
    {name name' : Text} {digits digits' : List (Fin 10)} (hname : 0x3D ∉ name)
    (hname' : 0x3D ∉ name') (hdigits : digits ≠ []) (hdigits' : digits' ≠ [])
    (hposting : posting.query = numberQuery name digits)
    (hreading : reading.query = numberQuery name' digits')
    (hsame : numeral digits' = numeral digits) (hlt : numeral digits < 2 ^ 32)
    {before after : List Event}
    (hown : OnlySample node Constitution.State.empty
      (before ++ .call (.setLogItem posting) :: after))
    (hserves : serves node (Runs.run governed Constitution.State.empty before)
      (.call (.setLogItem posting)) = true)
    (hafter : ∀ e ∈ served node (Runs.run governed Constitution.State.empty before) after,
      ∀ other, ¬ Posts node.toHost (UInt32.ofNat (numeral digits)) other e) :
    answerAfter node (before ++ .call (.setLogItem posting) :: after) reading =
        some (.ok (.of item.stored)) ↔
      Answers node (before ++ .call (.setLogItem posting) :: after) reading ∧
        decisionAfter node (before ++ .call (.setLogItem posting) :: after) reading =
          .ok true := by
  have hpost : Posts node.toHost (UInt32.ofNat (numeral digits)) item
      (.call (.setLogItem posting)) :=
    ⟨posting, rfl, hitem, hposting ▸ hhost.key hname hdigits hlt⟩
  have hkey : node.key reading.query = .ok (UInt32.ofNat (numeral digits)) := by
    rw [hreading, hhost.key hname' hdigits' (hsame ▸ hlt), hsame]
  have hserved : served node Constitution.State.empty
      (before ++ .call (.setLogItem posting) :: after) =
        served node Constitution.State.empty before ++ .call (.setLogItem posting) ::
          served node (Runs.run governed Constitution.State.empty before) after := by
    rw [served, Refinement.admitted_append, Refinement.admitted, if_pos hserves]
    rfl
  rw [answerAfter_item hown, hkey, hserved]
  exact and_congr_right fun _ => and_iff_left ⟨_, rfl, item,
    ⟨served node Constitution.State.empty before, _, _, rfl, hpost, hafter⟩, rfl⟩

/-- What is posted under `7` is read under `07`, by those whom the roles let in. -/
theorem seven_read_back :
    answerAfter logNode (deployed ++ [postHello]) readSeven = some (.ok (.of hello.stored)) ↔
      Answers logNode (deployed ++ [postHello]) readSeven ∧
        decisionAfter logNode (deployed ++ [postHello]) readSeven = .ok true :=
  read_back (fun n hn => by simp [logNode]) rfl (by decide) (by decide) (by decide) (by decide)
    rfl rfl (by decide) (by decide) onlySample_deployed serves_postHello
    (by simp [served, Refinement.admitted])

/-! ### All items -/

end CcfIdentity.Logapp
