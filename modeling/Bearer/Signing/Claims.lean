import Bearer.Json.Canonical
import Bearer.Json.Record
import Bearer.Time.Instant
import Bearer.Uuid
/-! What a signed token states: for whom, by whom, from when and until when. In the payload times are
whole seconds, rounded down. -/

namespace Bearer

structure Claims where
  subject : Uuid
  issuer : String
  issuedAt : Instant
  expiresAt : Instant
  deriving DecidableEq

namespace Signing

/-- The payload as text and numbers. -/
structure Payload where
  sub : String
  iss : String
  iat : Int
  exp : Int
  jti : Option String
  deriving DecidableEq, Repr

def Payload.ofClaims (c : Claims) (id : Option Uuid) : Payload where
  sub := c.subject.text
  iss := c.issuer
  iat := c.issuedAt.seconds
  exp := c.expiresAt.seconds
  jti := id.map Uuid.text

def Payload.toJson (p : Payload) : Json :=
  .obj ([("sub", .str p.sub), ("iss", .str p.iss), ("iat", .ofInt p.iat), ("exp", .ofInt p.exp)]
    ++ match p.jti with
      | some id => [("jti", .str id)]
      | none => [])

def signed64 : Json → Option Int := Json.int? (-9223372036854775808) 9223372036854775807

/-- Whether an audience lets this service in. The service makes tokens for itself, so it may not be a text or
a list of texts; what cannot be kept is none, as long as it can be passed over. -/
def admits (audience : Json) : Bool :=
  if audience.isKept 1 then
    match audience with
    | .str _ => false
    | .arr items => items.any fun j => j.text?.isNone
    | _ => true
  else audience.isPassed 1

/-- Whether a start of validity is in order. It is not heeded, but it has to be a single value. -/
def isStart : Json → Bool
  | .arr items => items.isEmpty
  | .obj members => members.isEmpty
  | j => j.isPassed 1

/-- The payload of a token that this service could have made; it is never an array. -/
def payload? (j : Json) : Option Payload := do
  let r ← j.record? ["sub", "iss", "iat", "exp", "jti", "aud", "nbf"]
  let sub ← r.required "sub" Json.text?
  let iss ← r.required "iss" Json.text?
  let iat ← r.required "iat" signed64
  let exp ← r.required "exp" signed64
  let jti ← r.defaulted "jti" none (Json.nullable Json.text?)
  let isOpen := (r.fields.lookup "aud").all admits && (r.fields.lookup "nbf").all isStart
  if 0 ≤ exp ∧ isOpen ∧ !r.positional then some ⟨sub, iss, iat, exp, jti⟩ else none

def Payload.toClaims? (p : Payload) : Option Claims := do
  let subject ← Uuid.parse? p.sub
  let issuedAt ← Instant.ofSeconds? p.iat
  let expiresAt ← Instant.ofSeconds? p.exp
  some ⟨subject, p.iss, issuedAt, expiresAt⟩

end Signing

end Bearer
