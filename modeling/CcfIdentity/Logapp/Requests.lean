import CcfIdentity.Auth.CheckAccess
import CcfIdentity.Base.Programs
import Mathlib.Data.Nat.Digits.Defs

/-!
# Requests of the sample application

What the handlers of `samples/logapp/src/endpoints` read of a request and what they answer.
The parts of a query are cut out with `split`, and its number is read by `parseInt`.
-/

open Utf16

namespace CcfIdentity.Logapp

/-- What a request shows of its caller: its headers and its path, and the certificate of the
connection. -/
structure Caller extends CcfIdentity.Request where
  certificate : Option Text

/-- A request whose body is a `T`, as the handlers declare theirs: its caller, the query, and
what `body.json()` returns or throws. -/
structure Request (T : Type) extends Caller where
  query : Text
  json : Except Failure T

/-- A response; either part may be missing, and the status is 200 where it is. -/
structure Response (B : Type) where
  statusCode : Option Nat
  body : Option B
deriving DecidableEq

/-- What a handler throws: a failure of the package or the language, or the refusal of a
number that is no key. -/
inductive Exception where
  | failure (f : Failure)
  | rangeError
deriving DecidableEq

/-- The code units that `parseInt` skips at the start: white space and line terminators. -/
def isSpace (c : UInt16) : Bool :=
  (0x09 ≤ c ∧ c ≤ 0x0D) ∨ c = 0x20 ∨ c = 0xA0 ∨ c = 0x1680 ∨ (0x2000 ≤ c ∧ c ≤ 0x200A) ∨
    c = 0x2028 ∨ c = 0x2029 ∨ c = 0x202F ∨ c = 0x205F ∨ c = 0x3000 ∨ c = 0xFEFF

/-- The sign of a number, and the rest. -/
def takeSign : Text → Bool × Text
  | 0x2D :: s => (true, s)
  | 0x2B :: s => (false, s)
  | s => (false, s)

/-- How the digits are read, with `16` where the rest begins with `0x`, and the rest. -/
def takeRadix : Text → Nat × Text
  | 0x30 :: 0x78 :: s => (16, s)
  | 0x30 :: 0x58 :: s => (16, s)
  | s => (10, s)

/-- The digits at the start. -/
def leadingDigits (radix : Nat) : Text → List Nat
  | [] => []
  | c :: s =>
    match (Json.hexDigit? c).filter (· < radix) with
    | some d => d :: leadingDigits radix s
    | none => []

/-- `parseInt`, with `none` for `NaN`. It converts `undefined` to a string first. -/
def parseInt (s : Option Text) : Option Int :=
  let (negative, s) := takeSign ((s.getD (text "undefined")).dropWhile isSpace)
  let (radix, s) := takeRadix s
  match leadingDigits radix s with
  | [] => none
  | d :: digits =>
    let n := Nat.ofDigits radix (d :: digits).reverse
    some (if negative then -n else n)

/-- `query.split("=")[1]`. -/
def queryValue (query : Text) : Option Text := (query.splitOn 0x3D)[1]?

/-- What the handlers take from their host: the decoder of tokens, and the key of a number,
which may be `NaN` and is refused where it is none. -/
structure Host where
  jwt_decode : Option Text → Except Failure JwtPayload
  uint32 : Option Int → Option UInt32

/-- The key of an item that a request asks for. -/
def Host.key (host : Host) (query : Text) : Except Exception UInt32 :=
  match host.uint32 (parseInt (queryValue query)) with
  | some key => .ok key
  | none => .error .rangeError

/-- Go on with what a package function or the request's body gives. -/
def lift {α : Type} (r : Except Failure α) : Except Exception α := r.mapError .failure

@[simp] theorem toOption_lift {α : Type} (r : Except Failure α) :
    (lift r).toOption = r.toOption := by
  cases r <;> rfl

theorem lift_eq_ok {α : Type} {r : Except Failure α} {a : α} : lift r = .ok a ↔ r = .ok a := by
  cases r <;> simp [lift, Except.mapError]

/-! ### Numbers in queries -/

/-- The text of a decimal digit. -/
def digitUnit (d : Fin 10) : UInt16 := 0x30 + UInt16.ofNat d

/-- The number with these digits. -/
def numeral (digits : List (Fin 10)) : Nat := Nat.ofDigits 10 (digits.map Fin.val).reverse

theorem hexDigit?_digitUnit (d : Fin 10) :
    (Json.hexDigit? (digitUnit d)).filter (· < 10) = some d.val := by
  revert d
  decide

/-- The text of a digit is no space, no sign, no mark of a radix and no equals sign. -/
theorem digitUnit_plain (d : Fin 10) : isSpace (digitUnit d) = false ∧
    digitUnit d ∉ [0x2D, 0x2B, 0x78, 0x58, 0x3D] := by
  revert d
  decide

theorem leadingDigits_digits (digits : List (Fin 10)) :
    leadingDigits 10 (digits.map digitUnit) = digits.map Fin.val := by
  induction digits with
  | nil => rfl
  | cons d rest ih => simp only [List.map_cons, leadingDigits, hexDigit?_digitUnit, ih]

theorem dropWhile_digits (digits : List (Fin 10)) :
    (digits.map digitUnit).dropWhile isSpace = digits.map digitUnit := by
  cases digits with
  | nil => rfl
  | cons d rest =>
    rw [List.map_cons, List.dropWhile_cons_of_neg (by simp [(digitUnit_plain d).1])]

theorem takeSign_digits (digits : List (Fin 10)) :
    takeSign (digits.map digitUnit) = (false, digits.map digitUnit) := by
  cases digits with
  | nil => rfl
  | cons d rest =>
    have hplain := (digitUnit_plain d).2
    rw [List.map_cons, takeSign.eq_3 _ (by simp_all) (by simp_all)]

theorem takeRadix_digits (digits : List (Fin 10)) :
    takeRadix (digits.map digitUnit) = (10, digits.map digitUnit) := by
  rcases digits with _ | ⟨d, _ | ⟨e, rest⟩⟩
  · rfl
  · rw [takeRadix.eq_3 _ (by simp) (by simp)]
  · have hplain := (digitUnit_plain e).2
    rw [takeRadix.eq_3 _ (by simp_all) (by simp_all)]

/-- The digits of a number are read back. -/
theorem parseInt_digits {digits : List (Fin 10)} (h : digits ≠ []) :
    parseInt (some (digits.map digitUnit)) = some (numeral digits : Int) := by
  rw [parseInt, Option.getD_some, dropWhile_digits, takeSign_digits]
  simp only [takeRadix_digits, leadingDigits_digits]
  cases digits with
  | nil => exact absurd rfl h
  | cons d rest => rfl

/-- A query `name=digits`. -/
def numberQuery (name : Text) (digits : List (Fin 10)) : Text :=
  name ++ 0x3D :: digits.map digitUnit

theorem queryValue_digits {name : Text} (h : 0x3D ∉ name) (digits : List (Fin 10)) :
    queryValue (numberQuery name digits) = some (digits.map digitUnit) := by
  have hdigits : 0x3D ∉ digits.map digitUnit := by
    intro hmem
    obtain ⟨d, -, hd⟩ := List.mem_map.mp hmem
    exact (digitUnit_plain d).2 (by simp [hd])
  rw [queryValue, numberQuery, List.splitOn_append_cons_self_of_not_mem h,
    List.splitOn_eq_singleton hdigits]
  rfl

/-- The host has a key of its own for every number that fits. -/
def Host.KeepsNumbers (host : Host) : Prop :=
  ∀ n : Nat, n < 2 ^ 32 → host.uint32 (some n) = some (UInt32.ofNat n)

/-- The key of a number in a query. -/
theorem Host.KeepsNumbers.key {host : Host} (hhost : host.KeepsNumbers) {name : Text}
    {digits : List (Fin 10)} (hname : 0x3D ∉ name) (hdigits : digits ≠ [])
    (hlt : numeral digits < 2 ^ 32) :
    host.key (numberQuery name digits) = .ok (UInt32.ofNat (numeral digits)) := by
  rw [Host.key, queryValue_digits hname, parseInt_digits hdigits, hhost _ hlt]

end CcfIdentity.Logapp
