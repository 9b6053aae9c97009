import CcfIdentity.Json.Value

/-!
# Numbers as doubles

A program sees of a decimal the double nearest to it, ties to the even significand. So a
long fraction can be an integer and a long integer a different one, which matters to
`Number.isInteger`, and JSON text that is written of a number need not give the decimal it
was read from.
-/

namespace Decimal

/-- The integer nearest to `n / d`, the even one where two are. -/
def roundHalfEven (n d : Nat) : Nat :=
  if 2 * (n % d) < d ∨ 2 * (n % d) = d ∧ n / d % 2 = 0 then n / d else n / d + 1

/-- The greatest `k` with `2 ^ k ≤ n / d`. -/
def floorLog (n d : Nat) : Int :=
  let k := (n.log2 : Int) - d.log2
  if n * Nat.pow 2 (-k).toNat < d * Nat.pow 2 k.toNat then k - 1 else k

/-- The exponent of the last binary place of the double nearest to `n / d`. -/
def lastPlace (n d : Nat) : Int := max (-1074) (floorLog n d - 52)

/-- The double nearest to `n / d` in units of its last binary place. -/
def significand (n d : Nat) : Nat :=
  roundHalfEven (n * Nat.pow 2 (-lastPlace n d).toNat) (d * Nat.pow 2 (lastPlace n d).toNat)

/-- The double nearest to `n / d`, where it is an integer. -/
def nearest? (n d : Nat) : Option Nat :=
  let e := lastPlace n d
  if significand n d % Nat.pow 2 (-e).toNat = 0 then
    some (significand n d / Nat.pow 2 (-e).toNat * Nat.pow 2 e.toNat)
  else none

/-- The number's absolute value is this over the denominator. -/
def numerator (d : Decimal) : Nat := d.coefficient * Nat.pow 10 d.exponent.toNat

def denominator (d : Decimal) : Nat := Nat.pow 10 (-d.exponent).toNat

/-- The integer the number is read as, if it is one. -/
def integer? (d : Decimal) : Option Int :=
  if d.overflows then none
  else (nearest? d.numerator d.denominator).map fun n => if d.negative then -(n : Int) else n

/-- The decimal `± coefficient / 10 ^ places` without the places it does not need. -/
def reduced (negative : Bool) (coefficient : Nat) : Nat → Decimal
  | 0 => ⟨negative, coefficient, 0⟩
  | places + 1 =>
    if coefficient % 10 = 0 then reduced negative (coefficient / 10) places
    else ⟨negative, coefficient, -((places : Int) + 1)⟩

/-- The decimal that the double nearest to the number is; a zero loses its sign in JSON
text. -/
def double (d : Decimal) : Decimal :=
  let e := lastPlace d.numerator d.denominator
  let n := significand d.numerator d.denominator
  reduced (d.negative && n != 0) (n * Nat.pow 2 e.toNat * Nat.pow 5 (-e).toNat) (-e).toNat

example : integer? ⟨false, 15, -1⟩ = none := by decide +kernel

-- Half a unit in the last place above `2 ^ 53` is rounded away.
example : integer? ⟨false, 9007199254740993, 0⟩ = some 9007199254740992 := by decide +kernel

example : double ⟨false, 9007199254740993, 0⟩ = ⟨false, 9007199254740992, 0⟩ := by decide +kernel

example : integer? ⟨true, 10000000000000000001, -19⟩ = some (-1) := by decide +kernel

end Decimal
