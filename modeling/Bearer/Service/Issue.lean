import Bearer.Service.Request
import Bearer.Signing.Compact
/-! Making a pair of tokens: a signed access token and a stored refresh token, both of one instant. All that
can fail on the way fails before anything is stored. -/

namespace Bearer

namespace Policy

/-- The instant at which a token issued now ends. -/
def expiry (issuedAt : Instant) (ttl : Duration) : Except Fault Instant :=
  match issuedAt.add? ttl with
  | some t => .ok t
  | none => .error (.internal
      ("Token expiry overflows the calendar: " ++ issuedAt.text ++ " + " ++ ttl.text))

def accessToken (p : Policy) (user : Uuid) (issuedAt : Instant) : Action Token := do
  let expiresAt ← Action.ofExcept (expiry issuedAt p.accessTtl)
  let id ← Action.freshId
  let value ← Action.ofExcept (p.sign ⟨user, p.issuer, issuedAt, expiresAt⟩ (some id))
  Action.ofExcept (Token.create id user value .access issuedAt expiresAt)

def refreshToken (p : Policy) (user : Uuid) (issuedAt : Instant) : Action Token := do
  let id ← Action.freshId
  let value ← Action.freshValue p.refreshBytes
  let expiresAt ← Action.ofExcept (expiry issuedAt p.refreshTtl)
  Action.ofExcept (Token.create id user value .refresh issuedAt expiresAt)

def issue (p : Policy) (user : Uuid) : Action TokenPair := do
  let issuedAt ← Action.now
  let access ← p.accessToken user issuedAt
  let refresh ← p.refreshToken user issuedAt
  Action.add refresh
  return ⟨access, refresh⟩

end Policy

end Bearer
