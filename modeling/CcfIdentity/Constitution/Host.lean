import CcfIdentity.Base.Programs
import CcfIdentity.Json.Stored

/-!
# The constitution's host

What the functions of `samples/logapp/constitution/actions.js` share: the arguments of a
proposed action, the exceptions they throw and the functions of the `ccf` object, which
the node provides. Arguments are JSON values, or `undefined` where there are none; the
members of an object stand in the order in which the language enumerates them.
-/

open Utf16

namespace Json

mutual

/-- String conversion of the value returns. It throws on an object whose member `toString`
hides the conversion every object has, and on an array around such an object. -/
def converts : Json → Bool
  | .arr elements => convertsAll elements
  | .obj members => (members.lookup (text "toString")).isNone
  | _ => true

/-- String conversion of every element returns. -/
def convertsAll : List Json → Bool
  | [] => true
  | v :: rest => converts v && convertsAll rest

end

end Json

namespace CcfIdentity.Constitution

/-- A part of an error's text: what the source writes, or a value it converts to a
string. -/
inductive Piece where
  | text (t : Text)
  | shown (v : Option Json)

/-- The text of an error. -/
abbrev Message := List Piece

/-- A text the source writes. -/
def lit (s : String) : Message := [.text (text s)]

/-- A number an error shows. -/
def number (n : Int) : Piece := .shown (some (.num ⟨n < 0, n.natAbs, 0⟩))

/-- What an action throws: an `Error` of its own, or a type error of the language or of a
function of the host. -/
inductive Fault where
  | error (message : Message)
  | typeError

/-- The piece can be written. -/
def Piece.converts : Piece → Bool
  | .text _ => true
  | .shown none => true
  | .shown (some v) => v.converts

/-- What `throw new Error(message)` throws. -/
def errorOf (message : Message) : Fault :=
  if message.all Piece.converts then .error message else .typeError

/-- `if (c) { throw new Error(message); }`. -/
def refuseIf (c : Prop) [Decidable c] (message : Message) : Except Fault Unit :=
  if c then .error (errorOf message) else .ok ()

/-- A property of the arguments, or of a value among them. -/
def field (v : Option Json) (name : String) : Except Fault (Option Json) :=
  match v with
  | none | some .null => .error .typeError
  | some v => .ok (v.property (text name))

/-- A call of the node that has an effect there. -/
inductive Call where
  | triggerRecoverySharesRefresh
  | triggerLedgerRekey
  | triggerLedgerChunk
  | triggerSnapshot
  | transitionServiceToOpen (previous : Option Text) (next : Text)
  | refreshAppBytecodeCache
  | setJwtPublicSigningKeys (issuer : Text) (metadata jwks : Json)
  | removeJwtPublicSigningKeys (issuer : Text)
  | generateNetworkCertificate (valid_from : Text) (validity_period_days : Int)
  | generateEndorsedCertificate (csr valid_from : Text) (validity_period_days : Int)

inductive ServiceStatus where
  | opened
  | recovering
  | waitingForRecoveryShares
  | other (name : Text)
deriving DecidableEq

/-- `public:ccf.gov.service.info`. -/
structure ServiceInfo where
  status : ServiceStatus
  cert : Text

/-- The `ccf` object at the time of an action: functions of the node, which may throw. -/
structure Ccf where
  isValidX509CertBundle : Option Json → Bool
  pemToId : Option Json → Except Fault Text
  strToBuf : Option Json → Except Fault Text
  /-- Strings are turned into bytes, and nothing else is. -/
  strToBuf_eq_ok : ∀ v s, strToBuf v = .ok s ↔ v = some (.str s)
  /-- A text, as the value that is read back from it. -/
  jsonCompatibleToBuf : Option Json → Except Fault Json
  jsonCompatibleToBuf_value : ∀ v, jsonCompatibleToBuf (some v) = .ok v.stored
  getLatestLedgerSecretSeqno : Int
  /-- The record of the service that the node leaves when it is to open it. -/
  openedService : Option Text → Text → ServiceInfo → Except Fault ServiceInfo
  /-- The text of a certificate that is generated. -/
  certificate : Call → Except Fault Text
  /-- Any other call returns, or throws. -/
  answer : Call → Except Fault Unit
  /-- What `set` records where it is called without a value. -/
  missingValue : Except Fault (Option Json)
  /-- `String.prototype.toUpperCase`. -/
  toUpperCase : Text → Text

/-- A node on which every certificate is valid, under its own text as its digest, and every
call returns. -/
def Ccf.accepting : Ccf where
  isValidX509CertBundle _ := true
  pemToId
    | some (.str pem) => .ok pem
    | _ => .error .typeError
  strToBuf
    | some (.str s) => .ok s
    | _ => .error .typeError
  strToBuf_eq_ok v s := by rcases v with _ | (_ | _ | _ | t | _ | _) <;> simp
  jsonCompatibleToBuf
    | some v => .ok v.stored
    | none => .error .typeError
  jsonCompatibleToBuf_value _ := rfl
  getLatestLedgerSecretSeqno := 0
  openedService _ _ info := .ok { info with status := .opened }
  certificate _ := .ok []
  answer _ := .ok ()
  missingValue := .ok none
  toUpperCase s := s

/-- Boolean conversion of a value. -/
def truthy : Option Json → Bool
  | some v => v.truthy
  | none => false

theorem refuseIf_eq_ok {c : Prop} [Decidable c] {message : Message} {u : Unit} :
    refuseIf c message = .ok u ↔ ¬ c := by
  rw [refuseIf]
  split
  · next hc => simp [hc]
  · next hc => simp [hc]

/-- Only a value has properties. -/
theorem field_ok {v p : Option Json} {name : String} (h : field v name = .ok p) :
    ∃ w, v = some w ∧ p = w.property (text name) := by
  cases v with
  | none => cases h
  | some w =>
    refine ⟨w, rfl, ?_⟩
    cases w with
    | null => cases h
    | _ => exact (Except.ok.inj h).symm

end CcfIdentity.Constitution
