import Bearer.Health
import Bearer.Http.ErrorBody
import Bearer.Token.Json
/-! What the service answers over HTTP. A fault of the token presented is answered 401 with a challenge,
one of the request 400, and all others 500 without a word on the cause. -/

namespace Bearer.Http

inductive Body
  | empty
  | error (e : ErrorBody)
  | grant (g : Grant)
  | user (u : Descriptor)
  | health (r : HealthReport)

structure Response where
  status : Nat
  /-- Whether the caller is told to present a bearer token. -/
  challenge : Bool
  body : Body

/-- A grant and how its access token is to be presented. -/
def bearerJson (g : Grant) : Json := .obj (g.fields ++ [("token_type", .str "Bearer")])

def Health.toJson (r : HealthReport) (time : String) : Json :=
  .obj [("status", .str r.status), ("service", .str "tokenkeep"), ("version", .str "0.1.0"),
    ("timestamp", .str time),
    ("components", .obj (r.components.map fun c =>
      (c.component.name,
        .obj [("status", .str (if c.healthy then "up" else "down")), ("detail", .str c.detail)])))]

/-- The body as JSON, given the time as it is written. -/
def Body.toJson? (b : Body) (time : String) : Option Json :=
  match b with
  | empty => none
  | error e => some (e.toJson time)
  | grant g => some (bearerJson g)
  | user u => some u.toJson
  | health r => some (Health.toJson r time)

def Body.contentType? : Body → Option String
  | empty => none
  | _ => some "application/json"

namespace Response

def challenge? (r : Response) : Option String := if r.challenge then some "Bearer" else none

def ofError (status : Nat) (e : ErrorBody) : Response := ⟨status, false, .error e⟩

def ofTokenFault (f : TokenFault) : Response :=
  let e := match f with
    | .invalid => ErrorBody.ofCode .tokenInvalid "Token is invalid"
    | .expired => ErrorBody.ofCode .tokenExpired "Token has expired"
    | .revoked => ErrorBody.ofCode .tokenRevoked "Token has been revoked"
  ⟨401, true, .error e⟩

def ofFault : Fault → Response
  | .token f => ofTokenFault f
  | .validation message => ofError 400 (ErrorBody.ofCode .invalidArgument message)
  | .notFound _ => internal
  | .repository _ => internal
  | .internal _ => internal
where
  internal : Response := ofError 500 (ErrorBody.ofCode .internalError "An internal error occurred")

def notFound : Response :=
  ofError 404 (ErrorBody.ofCode .notFound "The requested resource was not found")

def malformedBody : Response :=
  ofError 400 (ErrorBody.ofCode .invalidArgument "Malformed request body")

/-- Names the fields that are too short or too long. -/
def invalidFields (names : List String) : Response :=
  ofError 400
    ((ErrorBody.ofCode .invalidArgument "Request validation failed").withDetail "fields"
      (.arr (names.map .str)))

def ofHealth (r : HealthReport) : Response := ⟨if r.isHealthy then 200 else 503, false, .health r⟩

end Response

end Bearer.Http
