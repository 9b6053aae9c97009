import CcfIdentity.Constitution.Checks
import CcfIdentity.Constitution.Tables
import CcfIdentity.Store.Membership

/-!
# Users, principals and groups

The actions on users, `samples/logapp/constitution/actions.js:476–537`, and the checks of
those on service principals and groups, `:1207–1261`. `set_user` records the user's data
itself, `set_user_data` an object around it.
-/

open Utf16

namespace CcfIdentity.Constitution

/-- What the checks leave of the arguments of `set_user`. -/
structure SetUser where
  cert : Option Json
  user_data : Option Json

/-- Lines 478–481. -/
def validateSetUser (ccf : Ccf) (args : Option Json) : Except Fault SetUser := do
  let cert ← field args "cert"
  checkX509CertBundle ccf cert (lit "cert")
  let user_data ← checkOptional .object (← field args "user_data") (lit "user_data")
  return { cert, user_data }

/-- Lines 482–499. -/
def setUser (ccf : Ccf) (args : SetUser) : Program Fault Users Unit := do
  let userId ← .check (ccf.pemToId args.cert)
  let cert ← .check (ccf.strToBuf args.cert)
  .write fun u => { u with certs := u.certs.insert userId cert }
  match args.user_data with
  | some user_data => do
    let info ← .check (ccf.jsonCompatibleToBuf (some user_data))
    .write fun u => { u with info := u.info.insert userId info }
  | none => .write fun u => { u with info := u.info.erase userId }

/-- `set_user` returns where its certificate can be recorded, and records it. -/
theorem setUser_eq_ok {ccf : Ccf} {args : SetUser} {u u' : Users} :
    setUser ccf args u = (.ok (), u') ↔
      ∃ id, ccf.pemToId args.cert = .ok id ∧ ∃ cert, ccf.strToBuf args.cert = .ok cert ∧
        { certs := u.certs.insert id cert
          info := (args.user_data.map Json.stored).elim (u.info.erase id) (u.info.insert id) } =
          u' := by
  rw [setUser]
  cases args.user_data with
  | none => simp only [Program.check_bind_eq_ok, Program.write_bind, Program.write_eq_ok]; rfl
  | some user_data =>
    simp only [Program.check_bind_eq_ok, Program.write_bind, Program.write_eq_ok,
      ccf.jsonCompatibleToBuf_value, Except.ok.injEq, exists_eq_left']
    rfl

/-- Lines 505–507. -/
def validateRemoveUser (args : Option Json) : Except Fault EntityId := do
  checkEntityId (← field args "user_id") (lit "user_id")

/-- Lines 508–512. -/
def removeUser (user_id : EntityId) : Program Fault Users Unit :=
  .write fun u => { certs := u.certs.erase user_id.val, info := u.info.erase user_id.val }

/-- What the checks leave of the arguments of `set_user_data`. -/
structure SetUserData where
  user_id : EntityId
  user_data : Option Json

/-- Lines 518–521. -/
def validateSetUserData (args : Option Json) : Except Fault SetUserData := do
  let user_id ← checkEntityId (← field args "user_id") (lit "user_id")
  let user_data ← checkOptional .object (← field args "user_data") (lit "user_data")
  return { user_id, user_data }

/-- Lines 522–535. -/
def setUserData (ccf : Ccf) (args : SetUserData) : Program Fault Users Unit :=
  match args.user_data with
  | some user_data => do
    let info ← .check (ccf.jsonCompatibleToBuf (some (.obj [(text "user_data", user_data)])))
    .write fun u => { u with info := u.info.insert args.user_id.val info }
  | none => .write fun u => { u with info := u.info.erase args.user_id.val }

/-- `set_user_data` always returns. -/
theorem setUserData_apply (ccf : Ccf) (args : SetUserData) (u : Users) :
    setUserData ccf args u = (.ok (), { u with
      info := (args.user_data.map fun v => .obj [(text "user_data", v.stored)]).elim
        (u.info.erase args.user_id.val) (u.info.insert args.user_id.val) }) := by
  rw [setUserData]
  cases args.user_data with
  | none => rfl
  | some user_data =>
    simp only [ccf.jsonCompatibleToBuf_value]
    rfl

/-- Lines 1209–1212 and 1237–1240. -/
def validateIdAndName (args : Option Json) : Except Fault (Text × Text) := do
  let id : Text ← checkType .string (← field args "id") (lit "id")
  let name : Text ← checkType .string (← field args "name") (lit "name")
  return (id, name)

/-- Lines 1224–1226 and 1252–1254. -/
def validateId (args : Option Json) : Except Fault Text := do
  checkType .string (← field args "id") (lit "id")

end CcfIdentity.Constitution
