import Bearer.Service.Issue
/-! Using up a refresh token. Whoever exchanges one first revokes it in the store; of several callers with
the same value only the one that makes this change goes on to issue a pair. Withdrawing a token makes the
same change and is content if it is made already, or no longer matters. -/

namespace Bearer

/-- The stored token with a presented value. -/
def Action.present (value : String) : Action Token :=
  (Action.find value).mapFault Fault.missAsInvalid

namespace Policy

/-- Exchanges a refresh value for a new pair of the same user. -/
def rotate (p : Policy) (value : String) : Action TokenPair := do
  let token ← Action.present value
  let now ← Action.now
  if token.isExpired now then throw (.token .expired)
  if token.revoked then throw (.token .revoked)
  let won ← Action.tryRevoke value
  if !won then throw (.token .revoked)
  p.issue token.user

end Policy

/-- Withdraws a refresh value. -/
def withdraw (value : String) : Action Unit := do
  let token ← Action.present value
  let now ← Action.now
  if token.isExpired now || token.revoked then return
  let _ ← Action.tryRevoke value

end Bearer
