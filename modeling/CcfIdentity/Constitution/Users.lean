import CcfIdentity.Constitution.Steps

/-!
# Users

What the actions on users leave along a run. The information of a user is what the last
action on it wrote, and the two actions that write it do not write it alike: `set_user`
records what JSON text keeps of the data, `set_user_data` the same under the name
`user_data`. The latter does not ask whether there is such a user.
-/

open Utf16

namespace CcfIdentity.Constitution

/-- The action leaves the user with this information, or with none. -/
def Informs (id : Text) (info : Option Json) (e : Enactment) : Prop :=
  (∃ args, validate e = .ok (.set_user args) ∧ e.ccf.pemToId args.cert = .ok id ∧
      (∃ cert, e.ccf.strToBuf args.cert = .ok cert) ∧ info = args.user_data.map Json.stored) ∨
    (∃ user_id : EntityId, validate e = .ok (.remove_user user_id) ∧ user_id.val = id ∧
      info = none) ∨
    ∃ args, validate e = .ok (.set_user_data args) ∧ args.user_id.val = id ∧
      info = args.user_data.map fun v => .obj [(text "user_data", v.stored)]

/-- An action leaves at most one user with information or none. -/
theorem informs_unique {e : Enactment} {id id' : Text} {info info' : Option Json}
    (h : Informs id info e) (h' : Informs id' info' e) : id = id' ∧ info = info' := by
  rcases h with ⟨args, hvalid, hid, -, rfl⟩ | ⟨user_id, hvalid, rfl, rfl⟩ |
      ⟨args, hvalid, rfl, rfl⟩ <;>
    rcases h' with ⟨args', hvalid', hid', -, rfl⟩ | ⟨user_id', hvalid', rfl, rfl⟩ |
      ⟨args', hvalid', rfl, rfl⟩ <;>
    cases hvalid.symm.trans hvalid'
  · exact ⟨Except.ok.inj (hid.symm.trans hid'), rfl⟩
  · exact ⟨rfl, rfl⟩
  · exact ⟨rfl, rfl⟩

/-- What an action makes of the information. -/
theorem info_informs {e : Enactment} {id : Text} {info : Option Json} (h : Informs id info e)
    (g : State) (other : Text) : (step g e).users.info[other]? =
      if id = other then info else g.users.info[other]? := by
  rcases h with ⟨args, hvalid, hid, ⟨cert, hcert⟩, rfl⟩ | ⟨user_id, hvalid, rfl, rfl⟩ |
    ⟨args, hvalid, rfl, rfl⟩
  · have hset : setUser e.ccf args g.users = (.ok (), _) :=
      setUser_eq_ok.mpr ⟨id, hid, cert, hcert, Eq.refl _⟩
    rw [step_returns hvalid (onUsers_eq_ok.mpr ⟨_, hset, rfl⟩)]
    exact Table.getElem?_replace g.users.info id other _
  · have hremove : removeUser user_id g.users = (.ok (), _) := Program.write_apply _ _
    rw [step_returns hvalid (onUsers_eq_ok.mpr ⟨_, hremove, rfl⟩)]
    exact Table.getElem?_delete g.users.info user_id.val other
  · have hset := setUserData_apply e.ccf args g.users
    rw [step_returns hvalid (onUsers_eq_ok.mpr ⟨_, hset, rfl⟩)]
    exact Table.getElem?_replace g.users.info args.user_id.val other _

/-- Every other action leaves the users alone. -/
theorem users_kept {g : State} {e : Enactment} (h : ∀ id info, ¬ Informs id info e) :
    (step g e).users = g.users := by
  rcases step_cases g e with hsame | ⟨action, hvalid, happly⟩
  · rw [hsame]
  cases action with
  | set_user args =>
    obtain ⟨u, hset, -⟩ := onUsers_eq_ok.mp happly
    obtain ⟨id, hid, cert, hcert, -⟩ := setUser_eq_ok.mp hset
    exact absurd (.inl ⟨args, hvalid, hid, ⟨cert, hcert⟩, rfl⟩) (h id _)
  | remove_user user_id =>
    exact absurd (.inr (.inl ⟨user_id, hvalid, rfl, rfl⟩)) (h user_id.val none)
  | set_user_data args =>
    exact absurd (.inr (.inr ⟨args, hvalid, rfl, rfl⟩)) (h args.user_id.val _)
  | _ => exact frame_of_ok happly .users (by simp [Action.writes])

/-- The information of a user after an action is what that wrote, or what it was. -/
theorem info_step (g : State) (e : Enactment) (id : Text) (info : Json) :
    (step g e).users.info[id]? = some info ↔ Informs id (some info) e ∨
      g.users.info[id]? = some info ∧ ¬ ∃ other, Informs id other e := by
  by_cases hinforms : ∃ other written, Informs other written e
  · obtain ⟨other, written, h⟩ := hinforms
    rw [info_informs h]
    by_cases hid : other = id
    · subst hid
      rw [if_pos rfl]
      constructor
      · rintro rfl
        exact .inl h
      · rintro (hself | ⟨-, hnone⟩)
        · exact (informs_unique h hself).2
        · exact absurd ⟨written, h⟩ hnone
    · rw [if_neg hid]
      constructor
      · exact fun hinfo => .inr ⟨hinfo, fun ⟨w, hself⟩ => hid (informs_unique h hself).1⟩
      · rintro (hself | ⟨hinfo, -⟩)
        · exact absurd (informs_unique h hself).1 hid
        · exact hinfo
  · have hnone : ∀ other written, ¬ Informs other written e :=
      fun other written h => hinforms ⟨other, written, h⟩
    rw [users_kept hnone]
    constructor
    · exact fun hinfo => .inr ⟨hinfo, fun ⟨w, h⟩ => hnone id w h⟩
    · rintro (h | ⟨hinfo, -⟩)
      · exact absurd h (hnone id _)
      · exact hinfo

/-- After a run of enacted actions from empty tables, the information of a user is what the
last action on it wrote: what JSON text keeps of the data where that set the user, the same
under the name `user_data` where it set the data, and none where it removed the user. -/
theorem userInfo_iff (es : List Enactment) (id : Text) (info : Json) :
    (Runs.run step State.empty es).users.info[id]? = some info ↔
      ∃ before e after, es = before ++ e :: after ∧ Informs id (some info) e ∧
        ∀ later ∈ after, ∀ other, ¬ Informs id other later := by
  rw [Runs.iff_since (I := fun _ => True) (Q := fun g : State => g.users.info[id]? = some info)
    (fun _ _ _ => trivial) (fun g e _ => info_step g e id info) trivial
    (by simp [State.empty]) es]
  simp only [Runs.Since, Runs.guarded_const, not_exists]

/-! ### Data without a user -/

/-- Every user with information has a certificate. -/
def Certified (u : Users) : Prop := ∀ id ∈ u.info, id ∈ u.certs

/-- The action gives data to users with a certificate only. -/
def InformsUsers (g : State) (e : Enactment) : Prop :=
  ∀ args, validate e = .ok (.set_user_data args) → args.user_data ≠ none →
    args.user_id.val ∈ g.users.certs

/-- Setting a user gives it a certificate. -/
theorem certified_setUser {ccf : Ccf} {args : SetUser} {u u' : Users} (h : Certified u)
    (hset : setUser ccf args u = (.ok (), u')) : Certified u' := by
  obtain ⟨id, -, cert, -, rfl⟩ := setUser_eq_ok.mp hset
  intro other hother
  obtain ⟨info, hinfo⟩ := (Table.contains_iff _ _).mp hother
  rw [Table.getElem?_replace] at hinfo
  apply Table.mem_set.mpr
  by_cases hid : id = other
  · exact .inl hid
  · rw [if_neg hid] at hinfo
    exact .inr (h other ((Table.contains_iff _ _).mpr ⟨info, hinfo⟩))

/-- Removing a user takes both away. -/
theorem certified_removeUser {u : Users} (h : Certified u) (id : Text) :
    Certified { certs := u.certs.erase id, info := u.info.erase id } := by
  intro other hother
  obtain ⟨hid, hinfo⟩ := Table.mem_delete.mp hother
  exact Table.mem_delete.mpr ⟨hid, h other hinfo⟩

/-- Setting data keeps the users certified if the data are nobody's or a user's. -/
theorem certified_replace_iff {u : Users} (h : Certified u) (id : Text) (info : Option Json) :
    Certified { u with info := info.elim (u.info.erase id) (u.info.insert id) } ↔
      (info ≠ none → id ∈ u.certs) := by
  constructor
  · intro hafter hsome
    obtain ⟨v, rfl⟩ := Option.ne_none_iff_exists'.mp hsome
    exact hafter id (Table.mem_set.mpr (.inl rfl))
  · intro hcert other hother
    obtain ⟨v, hinfo⟩ := (Table.contains_iff _ _).mp hother
    rw [Table.getElem?_replace] at hinfo
    by_cases hid : id = other
    · subst hid
      rw [if_pos rfl] at hinfo
      exact hcert (by simp [hinfo])
    · rw [if_neg hid] at hinfo
      exact h other ((Table.contains_iff _ _).mpr ⟨v, hinfo⟩)

/-- An action keeps the users certified exactly when it gives data to users only. -/
theorem certified_step_iff {g : State} (h : Certified g.users) (e : Enactment) :
    Certified (step g e).users ↔ InformsUsers g e := by
  by_cases hdata : ∃ args, validate e = .ok (.set_user_data args)
  · obtain ⟨args, hvalid⟩ := hdata
    have hset := setUserData_apply e.ccf args g.users
    rw [step_returns hvalid (onUsers_eq_ok.mpr ⟨_, hset, rfl⟩), certified_replace_iff h]
    constructor
    · intro hcert args' hvalid' hsome
      cases hvalid.symm.trans hvalid'
      exact hcert (by simpa using hsome)
    · intro hinforms hsome
      exact hinforms args hvalid (by simpa using hsome)
  · refine iff_of_true ?_ fun args hvalid => absurd ⟨args, hvalid⟩ hdata
    rcases step_cases g e with hsame | ⟨action, hvalid, happly⟩
    · rwa [hsame]
    cases action with
    | set_user args =>
      obtain ⟨u, hset, hg⟩ := onUsers_eq_ok.mp happly
      rw [← hg]
      exact certified_setUser h hset
    | remove_user user_id =>
      obtain ⟨u, hremove, hg⟩ := onUsers_eq_ok.mp happly
      rw [← hg, ← Program.write_eq_ok.mp hremove]
      exact certified_removeUser h user_id.val
    | set_user_data args => exact absurd ⟨args, hvalid⟩ hdata
    | _ =>
      have husers : (step g e).users = g.users :=
        frame_of_ok happly .users (by simp [Action.writes])
      rwa [husers]

/-- Every user with information has a certificate throughout a run of enacted actions exactly
when none of them gives data to somebody without one. -/
theorem certified_throughout_iff {g : State} (h : Certified g.users) (es : List Enactment) :
    Runs.Throughout step (fun g => Certified g.users) g es ↔
      Runs.Guarded step InformsUsers g es :=
  Runs.throughout_iff_guarded (P := fun g : State => Certified g.users)
    (fun _ e hg => certified_step_iff hg e) h es

/-! Data for somebody who is no user. -/

private def strangerId : Text := List.replicate 64 0x63

private def informStranger : Enactment where
  ccf := .accepting
  proposalId := text "p0"
  name := text "set_user_data"
  args := some (.obj [(text "user_id", .str strangerId), (text "user_data", .obj [])])

/-- The stranger has information and no certificate. -/
theorem informStranger_uncertified :
    ¬ Runs.Throughout step (fun g => Certified g.users) State.empty [informStranger] := by
  have hcertified : Certified State.empty.users := fun id hid => by
    simp [State.empty] at hid
  have hvalid : validate informStranger = .ok (.set_user_data
      ⟨⟨strangerId, by decide⟩, some (.obj [])⟩) := rfl
  rw [certified_throughout_iff hcertified]
  intro hguarded
  have hcert := hguarded [] informStranger List.prefix_rfl _ hvalid (by simp)
  simp [State.empty] at hcert

end CcfIdentity.Constitution
