import Bearer.Text.Dump
/-! Why a request to the token service fails. A caller who presents a token learns only which of three
things is wrong with it; all other causes carry a text for the log. -/

namespace Bearer

inductive TokenFault
  /-- Bad signature, malformed or missing claims, foreign issuer, or a refresh value never stored. -/
  | invalid
  /-- Sound, but past its expiry. -/
  | expired
  /-- Sound and in time, but used up or withdrawn. -/
  | revoked
  deriving DecidableEq, Repr

inductive Fault
  | validation (message : String)
  | notFound (resource : String)
  | repository (message : String)
  | internal (message : String)
  | token (fault : TokenFault)
  deriving DecidableEq, Repr

namespace TokenFault

def message : TokenFault → String
  | invalid => "Invalid token"
  | expired => "Token expired"
  | revoked => "Token revoked"

def name : TokenFault → String
  | invalid => "InvalidToken"
  | expired => "TokenExpired"
  | revoked => "TokenRevoked"

end TokenFault

namespace Fault

def message : Fault → String
  | validation m => "Validation error: " ++ m
  | notFound r => "Resource not found: " ++ r
  | repository m => "Repository error: " ++ m
  | internal m => "Internal error: " ++ m
  | token t => t.message

def kind : Fault → String
  | validation _ => "Validation"
  | notFound _ => "NotFound"
  | repository _ => "Repository"
  | internal _ => "Internal"
  | token t => t.name

def dump : Fault → String
  | validation m => Dump.record "Validation" [("message", Dump.quoted m)]
  | notFound r => Dump.record "NotFound" [("resource", Dump.quoted r)]
  | repository m => Dump.record "Repository" [("message", Dump.quoted m)]
  | internal m => Dump.record "Internal" [("message", Dump.quoted m)]
  | token t => "Token(" ++ t.name ++ ")"

def isNotFound : Fault → Bool
  | notFound _ => true
  | _ => false

def tokenFault? : Fault → Option TokenFault
  | token t => some t
  | _ => none

/-- Whoever presents a value that is not stored holds an invalid token; other causes stay. -/
def missAsInvalid : Fault → Fault
  | notFound _ => token .invalid
  | f => f

end Fault

end Bearer
