import Bearer.Http.App
import Bearer.Proofs.Json.RoundTrip
import Bearer.Proofs.Service.Requests
import Bearer.Proofs.Service.InMemory
/-! Requests that are posted to an operation with a body in JSON, and what becomes of them: the value of the one
field is handed to the service, and its result is told by the response. -/

namespace Bearer

theorem Utf8.text?_encode (cs : List Char) : text? (encode cs) = some (String.ofList cs) := by
  have hsome : ∀ cs : List Char, (cs.map some).mapM id = some cs := by
    intro cs
    induction cs with
    | nil => rfl
    | cons c cs ih => simp [ih]
  rw [text?, decode_encode, hsome]
  rfl

/-- Bytes without a percent sign are what they are. -/
theorem Percent.unescape_of_notMem {keep : UInt8 → Bool} {bs : List UInt8} (h : 37 ∉ bs) : unescape keep bs = bs := by
  induction bs with
  | nil => rfl
  | cons b bs ih =>
    rw [List.mem_cons, not_or] at h
    rw [unescape, ih h.2]
    · rintro _ _ _ rfl
      exact absurd rfl h.1

namespace Http

/-- The operation is at its own path, and the body is JSON, within the limit both as it is sent and unpacked. -/
structure Request.Posts (r : Request) (limit : Nat) (o : Operation) (text : List UInt8) : Prop where
  method : r.method = "POST"
  path : Target.path? r.target = some o.path
  declared : (r.plainHeader? "content-type").any MediaType.isJson = true
  fits : r.body.length ≤ limit
  unpacked : (((r.plainHeader? "content-encoding").map Coding.ofName).getD .plain).unpack? limit r.body = some text

namespace Operation

theorem path?_path (o : Operation) : Target.path? o.path = some o.path := by
  have hpath : (Target.onServer o.path.toList).takeWhile (fun c => c ≠ '?' ∧ c ≠ '#') = o.path.toList := by
    cases o <;> rfl
  have hbytes : 37 ∉ Utf8.encode o.path.toList := by cases o <;> decide
  rw [Target.path?, hpath, Percent.unescape_of_notMem hbytes, Utf8.text?_encode, String.ofList_toList]

/-- The value of its field that a body gives. -/
def value? (o : Operation) (text : List UInt8) : Option String := (Json.ofBytes? text).bind o.field.read?

/-- The body that states a value. -/
def body (o : Operation) (value : String) : List UInt8 := Utf8.encode (Json.obj [(o.field.name, .str value)]).chars

theorem value?_body (o : Operation) (value : String) : o.value? (o.body value) = some value := by
  have hwritten : (Json.obj [(o.field.name, .str value)]).IsWritten := .obj fun m hm => by
    rw [List.mem_singleton.1 hm]
    exact .str value
  rw [value?, body, Json.ofBytes?_chars hwritten]
  cases o <;> rfl

/-- The use of the service that is made of a value. -/
def on : Operation → String → Service.Operation
  | issue, value => .issue value
  | refresh, value => .refresh value
  | revoke, value => .revoke value
  | introspect, value => .introspect value

/-- How a result is told. -/
def told : (o : Operation) → {value : String} → (o.on value).Result → Response
  | issue, _, g => ⟨200, false, .grant g⟩
  | refresh, _, g => ⟨200, false, .grant g⟩
  | revoke, _, _ => ⟨204, false, .empty⟩
  | introspect, _, d => ⟨200, false, .user d⟩

theorem route (o : Operation) : Route.of? "POST" o.path = some (.operation o) := by
  cases o <;> rfl

end Operation

/-- The request for an operation on a value, sent plainly. -/
def Request.post (o : Operation) (value : String) : Request where
  method := "POST"
  target := o.path
  headers := [("content-type", "application/json")]
  body := o.body value

theorem Request.posts_post {o : Operation} {value : String} {limit : Nat} (h : (o.body value).length ≤ limit) :
    (post o value).Posts limit o (o.body value) where
  method := rfl
  path := o.path?_path
  declared := rfl
  fits := h
  unpacked := if_pos h

namespace App

variable {app : App} {r : Request} {o : Operation} {text : List UInt8}

theorem run_perform (app : App) (o : Operation) (value : String) :
    (app.perform o value).run = (app.service.perform (o.on value)).bind fun r => .done (r.map o.told) := by
  cases o <;>
  · simp only [perform, Action.run_bind, Service.perform, Service.action, Operation.on]
    congr 1
    funext r
    cases r <;> rfl

/-- The response to a value: the result of the operation as it is told, or the fault. -/
theorem respond_eq (app : App) (o : Operation) (value : String) :
    app.respond o value =
      if o.field.admits value then
        (app.service.perform (o.on value)).bind fun
          | .ok x => .done (o.told x)
          | .error f => .done (Response.ofFault f)
      else .done (Response.invalidFields [o.field.name]) := by
  unfold respond
  split
  · rw [run_perform, Call.bind_eq, Call.bind_assoc]
    congr 1
    funext r
    cases r <;> rfl
  · rfl

theorem serve_of_posts (h : r.Posts app.bodyLimit o text) :
    app.serve r = match o.value? text with
      | none => .done Response.malformedBody
      | some value => app.respond o value := by
  have hjson : r.json? app.bodyLimit = Json.ofBytes? text := by
    simp [Request.json?, h.declared, h.fits, h.unpacked]
  rw [serve, h.method, h.path, Option.bind_some, o.route]
  simp only [hjson, Operation.value?]
  rfl

end App

end Http

end Bearer
