import CcfIdentity.Store.Tables

/-!
# Principals and groups

Readers of the two membership tables (`package/src/principal.ts`, `group.ts`) and the
governance actions that write them (`samples/logapp/constitution/actions.js:1206–1261`).
The package only reads these tables and governance only writes them.
-/

open Utf16

namespace CcfIdentity

/-- `PrincipalResponse` and `GroupResponse`: an identifier with its registered name. -/
structure MemberResponse where
  id : Text
  name : Text
deriving DecidableEq

/-- The shape shared by `getPrincipal` and `getGroup`. -/
def getMember (table : Table Text) (id : Text) (absent : String) :
    MemberResponse ⊕ IdentityResponse :=
  match (if table.contains id then table[id]? else none) with
  | some result => .inl { id := id, name := result }
  | none => .inr { message := absent }

/-- `package/src/principal.ts:22–30`. -/
def getPrincipal (s : Store) (principal_id : Text) : MemberResponse ⊕ IdentityResponse :=
  getMember s.idMap principal_id "Principal id has not be proposed."

/-- `package/src/principal.ts:38–43`. -/
def principalExists (s : Store) (principal_id : Text) : Bool :=
  if s.idMap.contains principal_id then true else false

/-- `package/src/group.ts:22–30`. -/
def getGroup (s : Store) (group_id : Text) : MemberResponse ⊕ IdentityResponse :=
  getMember s.groupMap group_id "Group id has not be proposed."

/-- `package/src/group.ts:38–43`. -/
def groupExists (s : Store) (group_id : Text) : Bool :=
  if s.groupMap.contains group_id then true else false

/-- `set_service_principal` with arguments that pass its type checks. -/
def setServicePrincipal (s : Store) (id name : Text) : Store :=
  { s with idMap := s.idMap.insert id name }

/-- `remove_service_principal` with an argument that passes its type check. -/
def removeServicePrincipal (s : Store) (id : Text) : Store :=
  { s with idMap := s.idMap.erase id }

/-- `set_group_id` with arguments that pass its type checks. -/
def setGroupId (s : Store) (id name : Text) : Store :=
  { s with groupMap := s.groupMap.insert id name }

/-- `remove_group_id` with an argument that passes its type check. -/
def removeGroupId (s : Store) (id : Text) : Store :=
  { s with groupMap := s.groupMap.erase id }

/-- A principal exists exactly when the table has a name for it. -/
theorem principalExists_iff (s : Store) (p : Text) :
    principalExists s p = true ↔ ∃ name, s.idMap[p]? = some name := by
  simp only [principalExists, Bool.if_false_right, Bool.and_true, Table.contains_iff,
    decide_eq_true_eq]

/-- Governance registers a principal. -/
theorem principalExists_set (s : Store) (id name p : Text) :
    principalExists (setServicePrincipal s id name) p ↔ principalExists s p ∨ p = id := by
  rw [principalExists_iff, principalExists_iff, setServicePrincipal, Table.getElem?_set]
  by_cases hp : p = id
  · simp [hp]
  · simp [hp, Ne.symm hp]

/-- Governance removes a principal. -/
theorem principalExists_remove (s : Store) (id p : Text) :
    principalExists (removeServicePrincipal s id) p ↔ principalExists s p ∧ p ≠ id := by
  rw [principalExists_iff, principalExists_iff, removeServicePrincipal, Table.getElem?_delete]
  by_cases hp : p = id
  · simp [hp]
  · simp [hp, Ne.symm hp]

end CcfIdentity
