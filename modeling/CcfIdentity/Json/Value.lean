import CcfIdentity.Base.Utf16

/-!
# JSON values

The values a JSON text denotes, with one member of an object for each name. Whoever enumerates
the members takes them in the order in which they stand, which is then the language's. A number
keeps its exact decimal value; what a program can observe of it once it is rounded to a double
is `Decimal.truthy`.
-/

open Utf16

/-- The decimal `± coefficient · 10 ^ exponent`. -/
structure Decimal where
  negative : Bool
  coefficient : Nat
  exponent : Int
deriving DecidableEq

namespace Decimal

/-- At most half the least positive double, so that rounding to even gives a zero. -/
def underflows (d : Decimal) : Bool :=
  d.coefficient * Nat.pow 10 d.exponent.toNat * Nat.pow 2 1075 ≤ Nat.pow 10 (-d.exponent).toNat

/-- At least halfway from the greatest double to `2 ^ 1024`, so that rounding gives an
infinity, which serialization writes as `null`. -/
def overflows (d : Decimal) : Bool :=
  (Nat.pow 2 1024 - Nat.pow 2 970) * Nat.pow 10 (-d.exponent).toNat ≤
    d.coefficient * Nat.pow 10 d.exponent.toNat

/-- Boolean conversion of the number as it is read back from serialized storage. -/
def truthy (d : Decimal) : Bool := !d.underflows && !d.overflows

end Decimal

/-- A JSON value. -/
inductive Json where
  | null
  | bool (b : Bool)
  | num (d : Decimal)
  | str (s : Text)
  | arr (elements : List Json)
  | obj (members : List (Text × Json))

namespace Json

/-- Boolean conversion. -/
def truthy : Json → Bool
  | null => false
  | bool b => b
  | num d => d.truthy
  | str s => !s.isEmpty
  | arr _ => true
  | obj _ => true

/-- Property read; `none` is `undefined`. Arrays and primitives have no property of the
names this is used with. -/
def property (name : Text) : Json → Option Json
  | obj members => members.lookup name
  | _ => none

/-- Give a member its value, in the place of an earlier member of that name if any. -/
def setMember (name : Text) (v : Json) : List (Text × Json) → List (Text × Json)
  | [] => [(name, v)]
  | m :: members =>
    if m.1 = name then (name, v) :: members else m :: setMember name v members

/-- The string `s` occurs as a value somewhere in the value; member names do not count. -/
inductive Mentions (s : Text) : Json → Prop where
  | str : Mentions s (str s)
  | arr {elements : List Json} {v : Json} :
      v ∈ elements → Mentions s v → Mentions s (arr elements)
  | obj {members : List (Text × Json)} {m : Text × Json} :
      m ∈ members → Mentions s m.2 → Mentions s (obj members)

/-- Only the named member's value is new. -/
theorem mem_setMember {name : Text} {v : Json} {members : List (Text × Json)}
    {m : Text × Json} (h : m ∈ setMember name v members) : m = (name, v) ∨ m ∈ members := by
  induction members with
  | nil => exact .inl (List.mem_singleton.mp h)
  | cons first rest ih =>
    simp only [setMember] at h
    split at h
    · rcases List.mem_cons.mp h with h | h
      · exact .inl h
      · exact .inr (List.mem_cons_of_mem _ h)
    · rcases List.mem_cons.mp h with h | h
      · exact .inr (h ▸ List.mem_cons_self)
      · exact (ih h).imp_right (List.mem_cons_of_mem _)

/-- Reading the member just given a value. -/
theorem lookup_setMember_self (name : Text) (v : Json) (members : List (Text × Json)) :
    (setMember name v members).lookup name = some v := by
  induction members with
  | nil => simp [setMember]
  | cons m rest ih =>
    rcases m with ⟨key, old⟩
    simp only [setMember]
    split
    · simp
    · next h => simp [List.lookup_cons, ih, beq_false_of_ne (Ne.symm h)]

/-- A value read from a member is mentioned by the object. -/
theorem mentions_of_property {s name : Text} {v w : Json} (hw : v.property name = some w)
    (hs : Mentions s w) : Mentions s v := by
  cases v with
  | obj members =>
    obtain ⟨before, after, hmembers, -⟩ := List.lookup_eq_some_iff.mp hw
    exact .obj (m := (name, w)) (by simp [hmembers]) hs
  | _ => cases hw

end Json
