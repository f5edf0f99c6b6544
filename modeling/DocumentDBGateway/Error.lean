import Mathlib.Tactic.Basic

/-! The gateway's errors as the modelled code builds and reads them, and the error classifier of
`telemetry/mod.rs`. -/

namespace DocumentDBGateway

/-- The `ErrorCode` variants the modelled code names; `other` is any further variant. -/
inductive ErrorCode where
  | internalError
  | badValue
  | unauthorized
  | typeMismatch
  | authenticationFailed
  | exceededTimeLimit
  | duplicateKey
  | other
  deriving DecidableEq, Repr

/-- `DocumentDBError`: a domain error code and its message. -/
structure DocumentDBError where
  code : ErrorCode
  message : String
  deriving DecidableEq, Repr

namespace DocumentDBError

def documentdbError (code : ErrorCode) (message : String) : DocumentDBError := ⟨code, message⟩

def typeMismatch (message : String) : DocumentDBError := ⟨.typeMismatch, message⟩

def badValue (message : String) : DocumentDBError := ⟨.badValue, message⟩

def internalError (message : String) : DocumentDBError := ⟨.internalError, message⟩

end DocumentDBError

/-- `error_code_to_status_code`, over `ErrorCode::from_i32` as `fromI32`. -/
def errorCodeToStatusCode (fromI32 : Int → Option ErrorCode) : Option Int → Nat
  | none => 200
  | some code =>
      match fromI32 code with
      | some .authenticationFailed | some .unauthorized => 401
      | some .internalError => 500
      | some .exceededTimeLimit => 408
      | some .duplicateKey => 409
      | _ => 400

end DocumentDBGateway
