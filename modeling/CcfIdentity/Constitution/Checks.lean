import CcfIdentity.Constitution.Host
import Mathlib.Algebra.Order.Group.Int

/-!
# Argument checks

`samples/logapp/constitution/actions.js:26–89` and `:113–138`. A check that passes hands on
the value with the type it has established, so that what runs on it later cannot be given
anything else. A check that fails throws an error that begins with the field it names.
-/

open Utf16

namespace CcfIdentity.Constitution

/-- The `typeof` operator. -/
def typeof : Option Json → String
  | none => "undefined"
  | some .null => "object"
  | some (.bool _) => "boolean"
  | some (.num _) => "number"
  | some (.str _) => "string"
  | some (.arr _) => "object"
  | some (.obj _) => "object"

/-- The types a check asks for. -/
inductive JsType where
  | array
  | integer
  | string
  | boolean
  | object

namespace JsType

/-- The values of a type; an object may be an array or `null`. -/
def Value : JsType → Type
  | array => List Json
  | integer => Int
  | string => Text
  | boolean => Bool
  | object => Json

/-- The value, where it has the type. -/
def read : (type : JsType) → Json → Option type.Value
  | array, .arr elements => some elements
  | integer, .num d => d.integer?
  | string, .str s => some s
  | boolean, .bool b => some b
  | object, .null => some .null
  | object, .arr elements => some (.arr elements)
  | object, .obj members => some (.obj members)
  | _, _ => none

/-- What the error says of the value. -/
def refusal (value : Option Json) : JsType → Message
  | array => lit " must be an array"
  | integer => lit " must be an integer"
  | string => lit s!" must be of type string but is {typeof value}"
  | boolean => lit s!" must be of type boolean but is {typeof value}"
  | object => lit s!" must be of type object but is {typeof value}"

end JsType

/-- Lines 26–45, for a type without a question mark. -/
def checkType (type : JsType) (value : Option Json) (name : Message) :
    Except Fault type.Value :=
  match value.bind type.read with
  | some v => .ok v
  | none => .error (errorOf (name ++ type.refusal value))

/-- Lines 26–45, for a type with a question mark: a missing value and `null` pass. -/
def checkOptional (type : JsType) (value : Option Json) (name : Message) :
    Except Fault (Option type.Value) :=
  match value with
  | none | some .null => .ok none
  | some v => some <$> checkType type (some v) name

/-- The elements of an array as string conversion writes them. -/
def joined (members : List String) : String := String.intercalate "," members

/-- Lines 47–51. -/
def checkEnum (value : Option Json) (members : List String) (name : Message) :
    Except Fault Unit :=
  match value with
  | some (.str s) =>
    if s ∈ members.map text then .ok ()
    else .error (errorOf (name ++ lit s!" must be one of {joined members}"))
  | _ => .error (errorOf (name ++ lit s!" must be one of {joined members}"))

/-- The bounds of a check, either of which may be missing. -/
def Within (low high : Option Int) (n : Int) : Prop :=
  (∀ l ∈ low, l ≤ n) ∧ ∀ h ∈ high, n ≤ h

/-- Lines 53–60, of a number. -/
def checkBounds (value : Int) (low high : Option Int) (name : Message) :
    Except Fault { n : Int // Within low high n } :=
  if hlow : ∃ l ∈ low, value < l then
    .error (errorOf (name ++ lit " must be greater than " ++ low.toList.map number))
  else if hhigh : ∃ h ∈ high, h < value then
    .error (errorOf (name ++ lit " must be lower than " ++ high.toList.map number))
  else
    .ok ⟨value, fun l hl => not_lt.mp fun h => hlow ⟨l, hl, h⟩,
      fun b hb => not_lt.mp fun h => hhigh ⟨b, hb, h⟩⟩

/-- Lines 62–69. -/
def checkLength (value : List Json) (min max : Option Nat) (name : Message) :
    Except Fault Unit :=
  if ∃ m ∈ min, value.length < m then
    .error (errorOf (name ++ lit " must be an array of minimum " ++
      min.toList.map (fun m => number m) ++ lit " elements"))
  else if ∃ m ∈ max, m < value.length then
    .error (errorOf (name ++ lit " must be an array of maximum " ++
      max.toList.map (fun m => number m) ++ lit " elements"))
  else .ok ()

/-- Lines 71–75. -/
def checkNone (args : Option Json) : Except Fault Unit :=
  match args with
  | none | some .null => .ok ()
  | some v => .error (errorOf
      (lit "Proposal does not accept any argument, found \"" ++ [.shown (some v)] ++ lit "\""))

/-- The class `[a-fA-F0-9]`. -/
def isHexDigit (c : UInt16) : Bool :=
  (0x61 ≤ c ∧ c ≤ 0x66) ∨ (0x41 ≤ c ∧ c ≤ 0x46) ∨ (0x30 ≤ c ∧ c ≤ 0x39)

/-- The hex-encoding of a SHA256 digest. -/
abbrev EntityId := { id : Text // id.length = 64 ∧ id.all isHexDigit = true }

/-- Lines 77–89. -/
def checkEntityId (value : Option Json) (name : Message) : Except Fault EntityId := do
  let id : Text ← checkType .string value name
  if hlength : id.length = 64 then
    if hdigits : id.all isHexDigit = true then
      return ⟨id, hlength, hdigits⟩
    else
      throw (errorOf (name ++ lit " contains non-hexadecimal character"))
  else
    throw (errorOf (name ++ lit " must contain exactly 64 characters"))

/-- Lines 132–138. -/
def checkX509CertBundle (ccf : Ccf) (value : Option Json) (name : Message) :
    Except Fault Unit :=
  if ccf.isValidX509CertBundle value then .ok ()
  else .error (errorOf (name ++ lit " must be a valid X509 certificate (bundle) in PEM format"))

/-- The path of an element. -/
def item (name : Message) (i : Nat) : Message := name ++ lit "[" ++ [number i] ++ lit "]"

/-- The text around a certificate in PEM format. -/
def pemOf (b64der : Text) : Text :=
  text "-----BEGIN CERTIFICATE-----\n" ++ b64der ++ text "\n-----END CERTIFICATE-----"

/-- Lines 113–130. -/
def checkJwks (ccf : Ccf) (value : Option Json) (name : Message) : Except Fault Unit := do
  let jwks : Json ← checkType .object value name
  let keys : List Json ← checkType .array (← field (some jwks) "keys") (name ++ lit ".keys")
  keys.zipIdx.forM fun (jwk, i) => do
    let path := item (name ++ lit ".keys") i
    let _ ← checkType .string (← field (some jwk) "kid") (path ++ lit ".kid")
    let _ ← checkType .string (← field (some jwk) "kty") (path ++ lit ".kty")
    let x5c : List Json ← checkType .array (← field (some jwk) "x5c") (path ++ lit ".x5c")
    checkLength x5c (some 1) none (path ++ lit ".x5c")
    x5c.zipIdx.forM fun (b64der, j) => do
      let der : Text ← checkType .string (some b64der) (item (path ++ lit ".x5c") j)
      checkX509CertBundle ccf (some (.str (pemOf der))) (item (path ++ lit ".x5c") j)

end CcfIdentity.Constitution
