import Bearer.Http.Coding
import Bearer.Http.MediaType
import Bearer.Http.Response
import Bearer.Http.Target
import Bearer.Json.Reader
import Bearer.Service.Introspect
/-! The service as an HTTP application. A request is routed by its method and path, its body is read as an
object with the one field that the operation takes, and the result of the operation becomes the response.
Every response carries an identifier, the caller's own if it sent a fit one. -/

namespace Bearer.Http

structure Request where
  method : String
  target : String
  /-- Names and values in the order in which they were sent. -/
  headers : List (String × String)
  body : List UInt8

/-- The first value that was sent under a name, which is given in lower case. -/
def Request.header? (r : Request) (name : String) : Option String :=
  (r.headers.find? fun h => Text.lowerAscii h.1 == name).map Prod.snd

inductive Operation
  | issue
  | refresh
  | revoke
  | introspect
  deriving DecidableEq, Repr

inductive Route
  | health
  | operation (o : Operation)
  deriving DecidableEq, Repr

def Operation.path : Operation → String
  | issue => "/api/v1/auth/tokens"
  | refresh => "/api/v1/auth/refresh"
  | revoke => "/api/v1/auth/revoke"
  | introspect => "/api/v1/auth/introspect"

def Operation.all : List Operation := [issue, refresh, revoke, introspect]

/-- Both the method and the path have to be the very ones. -/
def Route.of? (method path : String) : Option Route :=
  if method = "GET" ∧ path = "/health" then some .health
  else if method = "POST" then (Operation.all.find? fun o => o.path == path).map .operation
  else none

/-- The field that a request body consists of, and how many characters it may have. -/
structure Field where
  name : String
  least : Nat
  most : Nat

def Operation.field : Operation → Field
  | issue => ⟨"user_id", 1, 64⟩
  | refresh => ⟨"refresh_token", 0, 4096⟩
  | revoke => ⟨"refresh_token", 0, 4096⟩
  | introspect => ⟨"access_token", 0, 4096⟩

namespace Field

def read? (f : Field) (j : Json) : Option String := do
  let r ← j.record? [f.name]
  r.required f.name Json.text?

def admits (f : Field) (value : String) : Bool := f.least ≤ value.length && value.length ≤ f.most

end Field

/-- Visible characters of ASCII, spaces and tabs. -/
def isPlainText (s : String) : Bool :=
  s.toList.all fun c => (32 ≤ c.toNat && c.toNat ≤ 126) || c == '\t'

/-- A header that is plain text; any other says nothing. -/
def Request.plainHeader? (r : Request) (name : String) : Option String := (r.header? name).filter isPlainText

/-- The JSON in a body that is declared as such and is not too long, neither packed nor unpacked. -/
def Request.json? (r : Request) (limit : Nat) : Option Json := do
  let coding := ((r.plainHeader? "content-encoding").map Coding.ofName).getD .plain
  if (r.plainHeader? "content-type").any MediaType.isJson && r.body.length ≤ limit then
    Json.ofBytes? (← coding.unpack? limit r.body)
  else none

inductive RequestId
  | sent (text : String)
  | fresh (id : Uuid)
  deriving DecidableEq

def RequestId.text : RequestId → String
  | sent s => s
  | fresh id => id.text

/-- Between 1 and 128 visible characters of ASCII, spaces and tabs. -/
def isFitId (s : String) : Bool := s ≠ "" && s.length ≤ 128 && isPlainText s

def Request.id (r : Request) : Call RequestId :=
  match (r.header? "x-request-id").filter isFitId with
  | some s => pure (.sent s)
  | none => do pure (.fresh (← Call.request .freshRequestId))

structure App where
  service : Service
  /-- The most bytes that a body may have. -/
  bodyLimit : Nat

/-- The limit where none is set; bodies of requests are small. -/
def App.defaultLimit : Nat := 16384

namespace App

/-- Performs an operation on the value of its field. -/
def perform (app : App) (o : Operation) (value : String) : Action Response :=
  match o with
  | .issue => do return ⟨200, false, .grant (← app.service.issue value)⟩
  | .refresh => do return ⟨200, false, .grant (← app.service.refresh value)⟩
  | .revoke => do
    app.service.revoke value
    return ⟨204, false, .empty⟩
  | .introspect => do return ⟨200, false, .user (← app.service.introspect value)⟩

/-- The response to an operation on a value, which has to be of admitted length. -/
def respond (app : App) (o : Operation) (value : String) : Call Response :=
  if o.field.admits value then do
    match ← (app.perform o value).run with
    | .ok r => pure r
    | .error f => pure (Response.ofFault f)
  else pure (Response.invalidFields [o.field.name])

def serve (app : App) (r : Request) : Call Response :=
  match (Target.path? r.target).bind (Route.of? r.method) with
  | none => pure Response.notFound
  | some .health => do pure (Response.ofHealth (← Call.request .health))
  | some (.operation o) =>
    match (r.json? app.bodyLimit).bind o.field.read? with
    | none => pure Response.malformedBody
    | some value => app.respond o value

/-- The response to a request, and the identifier it carries. -/
def handle (app : App) (r : Request) : Call (Response × RequestId) := do
  let id ← r.id
  pure (← app.serve r, id)

end App

end Bearer.Http
