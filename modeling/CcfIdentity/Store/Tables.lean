import CcfIdentity.Json.Value

/-!
# The tables and their values

The key-value tables of `package/src/rbac.ts:17–18`, `principal.ts:14` and
`group.ts:14`, and the values they store. A typed map decodes a fresh copy on every read,
so a table holds values and no references. A role definition keeps apart the fields its
interface declares and its callers leave out; an assignment is whatever JSON value was
written.
-/

open Utf16

namespace CcfIdentity

/-- A typed key-value map with string keys: `has`, `get`, `set` and `delete` are
`contains`, `[·]?`, `insert` and `erase`. The encoding of the keys is taken to keep them
apart, which an encoding in UTF-8 does except for lone surrogates. -/
abbrev Table (V : Type) := Std.ExtTreeMap Text V

/-- A thrown exception: a type error, the `SyntaxError` of `JSON.parse`, or the refusal
of an undecodable token. -/
inductive Failure where
  | typeError
  | syntaxError
  | invalidToken
deriving DecidableEq

/-- `package/src/models/permission.ts:4–7`; either list may be missing. -/
structure Permission where
  actions : Option (List Text)
  notActions : Option (List Text)
deriving DecidableEq

/-- `package/src/models/roleDefinition.ts:14–18`; the permissions may be missing. -/
structure IRoleDefinition where
  id : Text
  name : Text
  permissions : Option Permission
deriving DecidableEq

/-- `package/src/models/identityResponse.ts:4–6`. -/
structure IdentityResponse where
  message : String
deriving DecidableEq

/-- The four tables. -/
@[ext]
structure Store where
  roles : Table IRoleDefinition
  roleAssignments : Table Json
  idMap : Table Text
  groupMap : Table Text

/-- The tables of a new network. -/
def Store.empty : Store := ⟨∅, ∅, ∅, ∅⟩

/-- What a call returns or throws. -/
abbrev Result := Except Failure IdentityResponse

/-- Reading a table after `set`. -/
theorem Table.getElem?_set {V : Type} (t : Table V) (k a : Text) (v : V) :
    (t.insert k v)[a]? = if k = a then some v else t[a]? := by
  simp [Std.ExtTreeMap.getElem?_insert]

/-- Reading a table after `delete`. -/
theorem Table.getElem?_delete {V : Type} (t : Table V) (k a : Text) :
    (t.erase k)[a]? = if k = a then none else t[a]? := by
  simp [Std.ExtTreeMap.getElem?_erase]

/-- Reading a table after `set` or, without a value, `delete`. -/
theorem Table.getElem?_replace {V : Type} (t : Table V) (k a : Text) (v : Option V) :
    (v.elim (t.erase k) (t.insert k))[a]? = if k = a then v else t[a]? := by
  cases v with
  | none => exact Table.getElem?_delete t k a
  | some v => exact Table.getElem?_set t k a v

/-- The keys of a table after `set`. -/
theorem Table.mem_set {V : Type} {t : Table V} {k a : Text} {v : V} :
    a ∈ t.insert k v ↔ k = a ∨ a ∈ t := by
  simp [Std.ExtTreeMap.mem_insert]

/-- The keys of a table after `delete`. -/
theorem Table.mem_delete {V : Type} {t : Table V} {k a : Text} :
    a ∈ t.erase k ↔ k ≠ a ∧ a ∈ t := by
  simp [Std.ExtTreeMap.mem_erase]

/-- Set the entries of a list one after another. -/
def Table.record {V : Type} (entries : List (Text × V)) (t : Table V) : Table V :=
  entries.foldl (fun t entry => t.insert entry.1 entry.2) t

/-- A key that is recorded has the value of its last entry. -/
theorem Table.getElem?_record {V : Type} (entries : List (Text × V)) (t : Table V) (k : Text) :
    (Table.record entries t)[k]? = (entries.reverse.lookup k).or t[k]? := by
  induction entries generalizing t with
  | nil => rfl
  | cons entry rest ih =>
    rcases entry with ⟨key, v⟩
    have hrest := ih (t.insert key v)
    rw [Table.record, List.foldl_cons, ← Table.record, hrest, Table.getElem?_set,
      List.reverse_cons, List.lookup_append]
    by_cases hk : key = k
    · subst hk
      simp
    · simp [hk, List.lookup_cons, beq_false_of_ne (Ne.symm hk)]

/-- Every key of the list is recorded. -/
theorem Table.record_of_mem {V : Type} {entries : List (Text × V)} {k : Text} {v : V}
    (h : (k, v) ∈ entries) (t : Table V) : ∃ w, (Table.record entries t)[k]? = some w := by
  rw [Table.getElem?_record]
  cases hlookup : entries.reverse.lookup k with
  | some w => exact ⟨w, rfl⟩
  | none =>
    have hne := List.lookup_eq_none_iff.mp hlookup (k, v) (List.mem_reverse.mpr h)
    simp at hne

/-- Nothing but the list is recorded in an empty table. -/
theorem Table.mem_of_record {V : Type} {entries : List (Text × V)} {k : Text} {v : V}
    (h : (Table.record entries ∅)[k]? = some v) : (k, v) ∈ entries := by
  rw [Table.getElem?_record, Std.ExtTreeMap.getElem?_empty, Option.or_none] at h
  obtain ⟨before, after, hsplit, -⟩ := List.lookup_eq_some_iff.mp h
  exact List.mem_reverse.mp (by rw [hsplit]; simp)

/-- A key is present exactly when it has a value. -/
theorem Table.contains_iff {V : Type} (t : Table V) (k : Text) :
    t.contains k = true ↔ ∃ v, t[k]? = some v := by
  rw [Std.ExtTreeMap.contains_eq_isSome_getElem?, Option.isSome_iff_exists]

/-- Setting a key to the value it has changes nothing. -/
theorem Table.set_same {V : Type} {t : Table V} {k : Text} {v : V} (h : t[k]? = some v) :
    t.insert k v = t := by
  apply Std.ExtTreeMap.ext_getElem?
  intro a
  rw [Table.getElem?_set]
  split
  · next ha => rw [← ha, h]
  · rfl

/-- Deleting an absent key changes nothing. -/
theorem Table.delete_absent {V : Type} (t : Table V) (k : Text) (h : ¬ t.contains k = true) :
    t.erase k = t := by
  have hnone : t[k]? = none := by
    rw [Std.ExtTreeMap.contains_eq_isSome_getElem?] at h
    exact Option.not_isSome_iff_eq_none.mp h
  apply Std.ExtTreeMap.ext_getElem?
  intro a
  rw [Table.getElem?_delete]
  split
  · next ha => rw [← ha, hnone]
  · rfl

end CcfIdentity
