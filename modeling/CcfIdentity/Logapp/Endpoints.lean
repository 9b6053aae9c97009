import CcfIdentity.Json.Stored
import CcfIdentity.Logapp.Requests
import CcfIdentity.Network.Steps

/-!
# Endpoints of the sample application

The handlers of `samples/logapp/src/endpoints`, over the tables of the package and the
application's own table of items. Only reading an item is checked against the roles.
-/

open Utf16

namespace CcfIdentity.Logapp

/-- `logMap`, by the keys of its numbers, with what is kept of each item. -/
abbrev Log := Std.ExtTreeMap UInt32 Json

/-- The tables the application reads and writes. -/
structure Tables where
  store : Store
  log : Log

/-- A handler is a program over the tables. -/
abbrev Handler := Program Exception Tables

/-- The response with a body. -/
def Response.of {B : Type} (body : B) : Response B := { statusCode := none, body := some body }

/-! ### `log.ts` -/

/-- `log.ts:24–27`, with what the map holds. -/
def reply : Option Json → Response Json
  | none => { statusCode := some 404, body := none }
  | some item => .of item

/-- `log.ts:17–28`. -/
def getLogItem (host : Host) (request : Request Unit) : Handler (Response Json) := do
  let t ← .read id
  let access ← .check (lift (checkAccess host.jwt_decode t.store request.toRequest))
  if access = false then
    return { statusCode := some 403, body := none }
  else
    let key ← .check (host.key request.query)
    return reply t.log[key]?

/-- `log.ts:30–34`. -/
def setLogItem (host : Host) (request : Request Json) : Handler (Response Unit) := do
  let item ← .check (lift request.json)
  let key ← .check (host.key request.query)
  .write fun t => { t with log := t.log.insert key item.stored }
  return { statusCode := none, body := none }

/-- A call of the package. -/
def call (f : Store → Result × Store) : Handler IdentityResponse :=
  fun t => (lift (f t.store).1, { t with store := (f t.store).2 })

/-- A key of the role table; one that is no string throws there. -/
def roleKey : Option Text → Except Exception Text
  | some roleId => .ok roleId
  | none => .error (.failure .typeError)

/-- A key of the principals' tables. One that is no string throws there too, but the tables
are asked for it only if the role exists. -/
def principalKey (roleId : Text) (principalId : Option Text) : Handler Text := do
  let t ← .read id
  match principalId with
  | some principalId => return principalId
  | none => if roleExists t.store roleId then .throw (.failure .typeError) else return []

/-- A property of a body that should be a string. -/
def stringOf (requestBody : Json) (name : String) : Except Exception (Option Text) :=
  match requestBody with
  | .null => .error (.failure .typeError)
  | body =>
    match body.property (text name) with
    | some (.str s) => .ok (some s)
    | _ => .ok none

/-- `rbac.ts:9–12`. -/
def addRbacRole (request : Request IRoleDefinition) : Handler (Response IdentityResponse) := do
  let role ← .check (lift request.json)
  let result ← call fun s => addRole s role
  return .of result

/-- `rbac.ts:14–18`. -/
def getRbacRole (request : Request Unit) :
    Handler (Response (IRoleDefinition ⊕ IdentityResponse)) := do
  let id ← .check (roleKey (queryValue request.query))
  let t ← .read fun t => t
  return .of (getRole t.store id)

/-- `rbac.ts:20–24`. -/
def removeRbacRole (request : Request Unit) : Handler (Response IdentityResponse) := do
  let id ← .check (roleKey (queryValue request.query))
  let result ← call fun s => removeRole s id
  return .of result

/-- `rbac.ts:26–29`. -/
def updateRbacRole (request : Request IRoleDefinition) : Handler (Response IdentityResponse) := do
  let role ← .check (lift request.json)
  let result ← call fun s => updateRole s role
  return .of result

/-- The handlers whose bodies name a role and a principal. -/
def withKeys (request : Request Json) (f : Text → Text → Store → Result × Store) :
    Handler (Response IdentityResponse) := do
  let requestBody ← .check (lift request.json)
  let roleId ← .check (stringOf requestBody "roleId" >>= roleKey)
  let principalId ← .check (stringOf requestBody "principalId")
  let principalId ← principalKey roleId principalId
  let result ← call (f roleId principalId)
  return .of result

/-- `rbac.ts:31–35`. -/
def assignPrincipalToRbacRole (request : Request Json) : Handler (Response IdentityResponse) :=
  withKeys request fun roleId principalId s => assignPrincipalToRole s roleId principalId

/-- `rbac.ts:37–41`. -/
def removePrincipalFromRbacRole (request : Request Json) : Handler (Response IdentityResponse) :=
  withKeys request fun roleId principalId s => removePrincipalFromRole s roleId principalId

/-- The parts of a query, `rbac.ts:44–50`: the last of each name. -/
def queryMap (query : Text) : Table (Option Text) :=
  Table.record ((query.splitOn 0x26).map fun part =>
    let subpart := part.splitOn 0x3D
    (subpart.headD [], subpart[1]?)) ∅

/-- `arr.get(name)`. -/
def queryPart (query : Text) (name : String) : Option Text :=
  (queryMap query)[text name]?.bind fun part => part

/-- `rbac.ts:43–54`. -/
def isInRbacRole (request : Request Unit) : Handler (Response Bool) := do
  let roleId ← .check (roleKey (queryPart request.query "roleId"))
  let principalId ← principalKey roleId (queryPart request.query "principalId")
  let t ← .read id
  return .of (isInRole t.store roleId principalId)

/-! ### `jwt.ts` -/

/-- `jwt.ts:30–32`. -/
def unauthorized (msg : String) : Response (Text ⊕ String) :=
  { statusCode := some 401, body := some (.inr msg) }

/-- `jwt.ts:14–28`, with the token or the message of the body. -/
def jwt (request : CcfIdentity.Request) : Response (Text ⊕ String) :=
  match request.headers[text "authorization"]? with
  | none | some [] => unauthorized "Authorization header missing"
  | some authHeader =>
    match split authHeader 0x20 2 with
    | [scheme, token] =>
      if scheme = text "Bearer" then .of (.inl token)
      else unauthorized "Unexpected authentication type"
    | _ => unauthorized "Unexpected authentication type"

end CcfIdentity.Logapp
