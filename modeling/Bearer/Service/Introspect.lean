import Bearer.Cache.Typed
import Bearer.Service.Rotate
/-! Who an access token speaks for, and the service as a whole. -/

namespace Bearer

/-- The claims of an access token that is genuine and in time. The clock is read only for a genuine one. -/
def Policy.verify (p : Policy) (token : String) : Action Claims := do
  match p.claims? token with
  | none => throw (.token .invalid)
  | some c =>
    let now ← Action.now
    if c.expiresAt < now then throw (.token .expired)
    return c

/-- The four operations on tokens under one policy. Without a cache every user is looked up anew. -/
structure Service where
  policy : Policy
  cache : Option (TypedCache Descriptor)

namespace Service

def issue (s : Service) (user : String) : Action Grant := do
  match Uuid.parse? user with
  | none => throw (.validation ("Invalid user_id format: " ++ user))
  | some id => return (← s.policy.issue id).grant

def refresh (s : Service) (value : String) : Action Grant := do
  return (← s.policy.rotate value).grant

def revoke (_ : Service) (value : String) : Action Unit := withdraw value

def lookup (s : Service) (user : Uuid) : Action Descriptor :=
  match s.cache with
  | some c => c.lookup user
  | none => Action.resolve user

/-- A genuine token of an unknown user is a fault of the data, not of the caller. -/
def introspect (s : Service) (token : String) : Action Descriptor := do
  let c ← s.policy.verify token
  (s.lookup c.subject).mapFault fun
    | .notFound _ => .repository ("decoded user_id " ++ c.subject.text ++ " is not found")
    | f => f

def validate (s : Service) (token : String) : Action Uuid := do
  return (← s.policy.verify token).subject

def isValid (s : Service) (token : String) : Call Bool := do
  match ← (s.validate token).run with
  | .ok _ => pure true
  | .error _ => pure false

/-- What a service is put together from. The store and the directory can only be there or missing. -/
structure Plan where
  policy : Policy
  hasStore : Bool
  hasDirectory : Bool
  /-- Time to keep descriptors, and the name in front of their keys. -/
  cache : Option (Ttl × String)

def build (plan : Plan) : Except Fault Service := do
  plan.policy.check
  if !plan.hasStore then
    throw (.internal "TokenServiceBuilder requires a refresh token store")
  if !plan.hasDirectory then
    throw (.internal "TokenServiceBuilder requires an identity resolver")
  return ⟨plan.policy, plan.cache.map fun (ttl, name) => ⟨Descriptor.codec, ttl, spaceOf name⟩⟩

end Service

end Bearer
