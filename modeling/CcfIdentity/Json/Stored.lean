import CcfIdentity.Json.Integers

/-!
# What JSON text keeps of a value

A value that is written as JSON text is read back with its numbers rounded to doubles, of
which the infinities are written as `null`. Everything else comes back as it was.
-/

open Utf16

namespace Json

mutual

/-- The value that JSON text written of a value denotes. -/
def stored : Json → Json
  | .num d => if d.overflows then .null else .num d.double
  | .arr elements => .arr (storedAll elements)
  | .obj members => .obj (storedMembers members)
  | v => v

def storedAll : List Json → List Json
  | [] => []
  | v :: rest => stored v :: storedAll rest

def storedMembers : List (Text × Json) → List (Text × Json)
  | [] => []
  | m :: rest => storedMember m :: storedMembers rest

def storedMember : Text × Json → Text × Json
  | (name, v) => (name, stored v)

end

@[simp] theorem stored_null : stored .null = .null := rfl

@[simp] theorem stored_bool (b : Bool) : stored (.bool b) = .bool b := rfl

@[simp] theorem stored_str (s : Text) : stored (.str s) = .str s := rfl

@[simp] theorem stored_obj (members : List (Text × Json)) :
    stored (.obj members) = .obj (storedMembers members) := rfl

theorem storedMembers_eq_map (members : List (Text × Json)) :
    storedMembers members = members.map storedMember := by
  induction members with
  | nil => rfl
  | cons m rest ih => rw [storedMembers, ih, List.map_cons]

/-- A member is kept under its name. -/
theorem lookup_storedMembers (members : List (Text × Json)) (name : Text) :
    (storedMembers members).lookup name = (members.lookup name).map stored := by
  induction members with
  | nil => rfl
  | cons m rest ih =>
    rcases m with ⟨key, v⟩
    rw [storedMembers, storedMember, List.lookup_cons, List.lookup_cons, ih]
    cases name == key <;> rfl

/-- A property is kept under its name. -/
theorem property_stored (v : Json) (name : Text) :
    v.stored.property name = (v.property name).map stored := by
  cases v with
  | num d =>
    rw [stored]
    split <;> rfl
  | obj members => exact lookup_storedMembers members name
  | _ => rfl

end Json
