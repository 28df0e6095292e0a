import Bearer.Http.Wire
import Bearer.Proofs.Http.Posts
import Bearer.Proofs.Service.Faults
/-! What a caller over HTTP can rely on. A request is refused for its body alone, and then nothing has happened; in
every other case the response tells what the operation of the service has come to, a fault of the token by its kind
and any other not at all. -/

namespace Bearer.Http

namespace Operation

/-- The values that an operation can be performed on. -/
def Accepts : Operation → String → Prop
  | issue, value => 1 ≤ value.length ∧ value.length ≤ 64 ∧ (Uuid.parse? value).isSome = true
  | _, value => value.length ≤ 4096

instance (o : Operation) (value : String) : Decidable (o.Accepts value) :=
  match o with
  | issue => inferInstanceAs (Decidable (1 ≤ value.length ∧ value.length ≤ 64 ∧ (Uuid.parse? value).isSome = true))
  | refresh => inferInstanceAs (Decidable (value.length ≤ 4096))
  | revoke => inferInstanceAs (Decidable (value.length ≤ 4096))
  | introspect => inferInstanceAs (Decidable (value.length ≤ 4096))

theorem admits_of_accepts {o : Operation} {value : String} (h : o.Accepts value) : o.field.admits value = true := by
  simp only [Field.admits, Bool.and_eq_true, decide_eq_true_eq]
  cases o with
  | issue => exact ⟨h.1, h.2.1⟩
  | _ => exact ⟨Nat.zero_le _, h⟩

theorem Accepts.names_user {o : Operation} {value : String} (h : o.Accepts value) :
    o = .issue → ∃ id, Uuid.parse? value = some id := by
  rintro rfl
  exact Option.isSome_iff_exists.1 h.2.2

/-- A value of admitted length is refused only if it is to be issued for and names no user. -/
theorem accepts_of_admits {o : Operation} {value : String} (h : o.field.admits value = true) :
    o.Accepts value ∨ o = .issue ∧ Uuid.parse? value = none := by
  simp only [Field.admits, Bool.and_eq_true, decide_eq_true_eq] at h
  cases o with
  | issue =>
    cases hid : Uuid.parse? value with
    | some id => exact Or.inl ⟨h.1, h.2, by rw [hid]; rfl⟩
    | none => exact Or.inr ⟨rfl, rfl⟩
  | _ => exact Or.inl h.2

end Operation

/-- How a fault of the token is told. -/
def codeOf : TokenFault → String
  | .invalid => "TOKEN_INVALID"
  | .expired => "TOKEN_EXPIRED"
  | .revoked => "TOKEN_REVOKED"

/-- What tells of an error, with its details if there are any, and of the time. -/
def errorJson (code message : String) (details : Option (List (String × Json))) (time : String) : Json :=
  .obj ([("error", .str code), ("message", .str message)] ++
    (details.map fun ds => ("details", Json.obj ds)).toList ++ [("timestamp", .str time)])

namespace Operation

/-- The status of a success. -/
def success : Operation → Nat
  | revoke => 204
  | _ => 200

/-- The values of a result, under their names. -/
def json? : (o : Operation) → {value : String} → (o.on value).Result → Option Json
  | issue, _, g => some (granted g)
  | refresh, _, g => some (granted g)
  | revoke, _, _ => none
  | introspect, _, d => some (.obj [("user_id", .str d.user.text), ("username", .str d.name)])
where
  granted (g : Grant) : Json := .obj [("user_id", .str g.user.text), ("access_token", .str g.access),
    ("refresh_token", .str g.refresh), ("token_type", .str "Bearer")]

end Operation

namespace Outbound

/-- What is sent: the status, the challenges, and the body as it is at each time, which is declared as JSON. -/
structure Sends (out : Outbound) (status : Nat) (challenges : List String) (body? : String → Option Json) : Prop where
  status : out.status = status
  challenges : out.headers.values "www-authenticate" = challenges.map Utf8.bytes
  declared : out.headers.values "content-type" = ((body? "").map fun _ => Utf8.bytes "application/json").toList
  body : ∀ time, out.body.toJson? time = body? time

/-- The result of an operation is told. -/
def Tells (out : Outbound) {o : Operation} {value : String} (x : (o.on value).Result) : Prop :=
  out.Sends o.success [] fun _ => o.json? x

/-- A refusal of the request as it is. -/
def Refuses (out : Outbound) : Prop :=
  ∃ message details, out.Sends 400 [] fun time => some (errorJson "INVALID_ARGUMENT" message details time)

/-- The fault of a token is told with a challenge. -/
def Challenges (out : Outbound) (f : TokenFault) : Prop :=
  ∃ message, out.Sends 401 ["Bearer"] fun time => some (errorJson (codeOf f) message none time)

/-- All that is not the fault of the caller is told in one way. -/
def Silent (out : Outbound) : Prop :=
  out.Sends 500 [] fun time => some (errorJson "INTERNAL_ERROR" "An internal error occurred" none time)

/-- What is sent tells what an operation has come to: a result with its values, a fault of the token by its kind, any
other fault not at all. -/
structure Reports (out : Outbound) {o : Operation} {value : String} (outcome : (o.on value).Outcome) : Prop where
  tells : ∀ x, out.Tells x ↔ outcome = .ok x
  success : out.status = o.success ↔ ∃ x, outcome = .ok x
  challenges : ∀ f, out.Challenges f ↔ outcome = .error (.token f)
  unauthorized : out.status = 401 ↔ ∃ f, outcome = .error (.token f)
  silent : out.Silent ↔ ∃ f, outcome = .error f ∧ f.tokenFault? = none
  failure : out.status = 500 ↔ ∃ f, outcome = .error f ∧ f.tokenFault? = none

end Outbound

theorem Headers.values_put_of_ne (hs : Headers) {name other : String} (hname : Text.lowerAscii name = name)
    (hne : other ≠ name) (value : List UInt8) : (hs.put name value).values other = hs.values other := by
  have hfilter : (hs.filter fun h => Text.lowerAscii h.1 != name).filter (fun h => Text.lowerAscii h.1 == other) =
      hs.filter fun h => Text.lowerAscii h.1 == other := by
    rw [List.filter_filter]
    refine List.filter_congr fun h _ => ?_
    by_cases hother : Text.lowerAscii h.1 = other
    · simp [hother, hne]
    · simp [hother]
  rw [values, put, List.filter_append, hfilter]
  simp [values, hname, hne.symm]

namespace Response

theorem values_headers (r : Response) :
    r.headers.values "content-type" = r.body.contentType?.toList.map Utf8.bytes ∧
      r.headers.values "www-authenticate" = r.challenge?.toList.map Utf8.bytes := by
  have hdeclared : Text.lowerAscii "content-type" = "content-type" := by decide
  have hchallenge : Text.lowerAscii "www-authenticate" = "www-authenticate" := by decide
  unfold headers
  cases r.body.contentType? <;> cases r.challenge? <;> simp [Headers.values, hdeclared, hchallenge]

/-- The identifier concerns neither the challenge nor the body. -/
theorem sends_identified (r : Response) (id : RequestId) :
    (r.identified id).Sends r.status r.challenge?.toList r.body.toJson? := by
  have hvalues {name : String} (hne : name ≠ requestIdName) :
      (r.identified id).headers.values name = r.headers.values name := by
    unfold identified
    cases Headers.value? id.text with
    | none => rfl
    | some value => exact Headers.values_put_of_ne _ (by decide) hne value
  refine ⟨rfl, ?_, ?_, fun _ => rfl⟩
  · rw [hvalues (by decide), r.values_headers.2]
  · rw [hvalues (by decide), r.values_headers.1]
    cases r.body <;> rfl

theorem sends_ofError (status : Nat) (e : ErrorBody) (id : RequestId) :
    ((ofError status e).identified id).Sends status [] fun time =>
      some (errorJson e.code e.message e.details time) := by
  have hbody : (ofError status e).body.toJson? = fun time => some (errorJson e.code e.message e.details time) := by
    funext time
    rcases e with ⟨code, message, _ | details⟩ <;> rfl
  have hsends := (ofError status e).sends_identified id
  rw [hbody] at hsends
  exact hsends

theorem challenges_ofTokenFault (f : TokenFault) (id : RequestId) : ((ofTokenFault f).identified id).Challenges f := by
  have hsends := (ofTokenFault f).sends_identified id
  cases f <;> exact ⟨_, hsends⟩

theorem tells_told {o : Operation} {value : String} (x : (o.on value).Result) (id : RequestId) :
    ((o.told x).identified id).Tells x := by
  have hsends := (o.told x).sends_identified id
  cases o <;> exact hsends

end Response

namespace App

variable {app : App} {r : Request} {o : Operation} {text : List UInt8}

theorem run_handle (app : App) (r : Request) (s : Surroundings) :
    s.run (app.handle r) =
      ((((s.run r.id).2.run (app.serve r)).1, (s.run r.id).1), ((s.run r.id).2.run (app.serve r)).2) := by
  simp only [handle, Call.bind_eq, Call.pure_eq, Surroundings.run_bind]
  rfl

/-- The identifier of a request concerns nobody but the one who numbers them. -/
theorem run_id (r : Request) (s : Surroundings) :
    ∃ n asked, (s.run r.id).2 = { s with requestIds := n, asked := asked } := by
  unfold Request.id
  split
  · exact ⟨s.requestIds, s.asked, rfl⟩
  · exact ⟨_, _, rfl⟩

/-- A body that gives no value to perform the operation on is refused before anything is asked. -/
theorem serve_of_refused (h : r.Posts app.bodyLimit o text)
    (hno : ¬∃ value, o.value? text = some value ∧ o.Accepts value) :
    ∃ response : Response, app.serve r = .done response ∧ ∀ id, (response.identified id).Refuses := by
  rw [serve_of_posts h]
  cases hvalue : o.value? text with
  | none => exact ⟨Response.malformedBody, rfl, fun id => ⟨_, _, Response.sends_ofError _ _ id⟩⟩
  | some value =>
    dsimp only
    rw [respond_eq]
    by_cases hadmits : o.field.admits value = true
    · rw [if_pos hadmits]
      rcases Operation.accepts_of_admits hadmits with haccepts | ⟨rfl, hid⟩
      · exact absurd ⟨value, hvalue, haccepts⟩ hno
      · refine ⟨Response.ofFault (.validation ("Invalid user_id format: " ++ value)), ?_,
          fun id => ⟨_, _, Response.sends_ofError _ _ id⟩⟩
        simp only [Operation.on, Service.perform, Service.action, Service.issue, hid]
        rfl
    · rw [if_neg hadmits]
      exact ⟨Response.invalidFields [o.field.name], rfl, fun id => ⟨_, _, Response.sends_ofError _ _ id⟩⟩

theorem serve_of_accepted (h : r.Posts app.bodyLimit o text) {value : String} (hvalue : o.value? text = some value)
    (haccepts : o.Accepts value) :
    app.serve r = (app.service.perform (o.on value)).bind fun
      | .ok x => .done (o.told x)
      | .error f => .done (Response.ofFault f) := by
  have hserve := serve_of_posts h
  rw [hvalue] at hserve
  have hrespond := app.respond_eq o value
  rw [if_pos (Operation.admits_of_accepts haccepts)] at hrespond
  exact hserve.trans hrespond

end App

section

variable {svc : Service} {s : Surroundings} {o : Operation} {value : String}

/-- Unless it is to be issued for what names no user, an operation in memory comes to a result, or to a fault that
is told as one. -/
theorem told_of_perform (hp : svc.policy.check = .ok ()) (hs : s.InMemory)
    (ho : o = .issue → ∃ id, Uuid.parse? value = some id) :
    Action.Told (s.run (svc.perform (o.on value))).1 ∧ (s.run (svc.perform (o.on value))).2.InMemory := by
  have htells : (svc.action (o.on value)).Tells := by
    refine Service.tells_action hp fun user huser => ?_
    cases o with
    | issue =>
      cases huser
      exact ho rfl
    | _ => cases huser
  exact htells.run (fun r s hs _ => hs.answer r) hs

/-- What is not found is told in another way. -/
theorem perform_ne_notFound (hp : svc.policy.check = .ok ()) (hs : s.InMemory) (resource : String) :
    (s.run (svc.perform (o.on value))).1 ≠ .error (.notFound resource) := by
  intro h
  by_cases ho : o = .issue ∧ Uuid.parse? value = none
  · obtain ⟨rfl, hid⟩ := ho
    simp only [Operation.on, Service.perform, Service.action, Service.issue, hid] at h
    cases h
  · have hnames : o = .issue → ∃ id, Uuid.parse? value = some id := fun hissue =>
      Option.ne_none_iff_exists'.1 fun hid => ho ⟨hissue, hid⟩
    have htold := (told_of_perform hp hs hnames).1
    rw [h] at htold
    exact htold

end

theorem codeOf_injective {f g : TokenFault} (h : codeOf f = codeOf g) : f = g := by
  revert h
  cases f <;> cases g <;> decide

theorem Outbound.Challenges.status {out : Outbound} {f : TokenFault} (h : out.Challenges f) : out.status = 401 := by
  obtain ⟨_, h⟩ := h
  exact h.status

theorem Outbound.Challenges.unique {out : Outbound} {f g : TokenFault} (hf : out.Challenges f)
    (hg : out.Challenges g) : f = g := by
  obtain ⟨_, hf⟩ := hf
  obtain ⟨_, hg⟩ := hg
  have hbody := (hf.body "").symm.trans (hg.body "")
  simp only [errorJson, Option.some.injEq, Json.obj.injEq, List.cons_append, List.cons.injEq, Prod.mk.injEq,
    Json.str.injEq, true_and] at hbody
  exact codeOf_injective hbody.1

namespace Operation

variable {o : Operation} {value : String}

theorem granted_injective {g g' : Grant} (h : json?.granted g = json?.granted g') : g = g' := by
  obtain ⟨user, access, refresh⟩ := g
  obtain ⟨user', access', refresh'⟩ := g'
  simp only [json?.granted, Json.obj.injEq, List.cons.injEq, Prod.mk.injEq, Json.str.injEq, true_and, and_true] at h
  obtain ⟨huser, rfl, rfl⟩ := h
  rw [Uuid.text_injective huser]

/-- What is sent of a result tells all of it. -/
theorem json?_injective {x y : (o.on value).Result} (h : o.json? x = o.json? y) : x = y := by
  cases o with
  | issue => exact granted_injective (Option.some.inj h)
  | refresh => exact granted_injective (Option.some.inj h)
  | revoke => rfl
  | introspect =>
    obtain ⟨user, name⟩ := x
    obtain ⟨user', name'⟩ := y
    simp only [json?, Option.some.injEq, Json.obj.injEq, List.cons.injEq, Prod.mk.injEq, Json.str.injEq, true_and,
      and_true] at h
    obtain ⟨huser, rfl⟩ := h
    rw [Uuid.text_injective huser]

theorem success_cases (o : Operation) : o.success = 200 ∨ o.success = 204 := by
  cases o with
  | revoke => exact Or.inr rfl
  | _ => exact Or.inl rfl

/-- How the response follows from what an operation has come to. -/
def answer (o : Operation) {value : String} : (o.on value).Outcome → Response
  | .ok x => o.told x
  | .error f => Response.ofFault f

theorem answer_cases {outcome : (o.on value).Outcome} (h : Action.Told outcome) (id : RequestId) :
    (∃ x, outcome = .ok x ∧ ((o.answer outcome).identified id).Tells x) ∨
      (∃ f, outcome = .error (.token f) ∧ ((o.answer outcome).identified id).Challenges f) ∨
      ∃ f, outcome = .error f ∧ f.tokenFault? = none ∧ ((o.answer outcome).identified id).Silent := by
  cases outcome with
  | ok x => exact Or.inl ⟨x, rfl, Response.tells_told x id⟩
  | error f =>
    cases f with
    | token f => exact Or.inr (Or.inl ⟨f, rfl, Response.challenges_ofTokenFault f id⟩)
    | repository message => exact Or.inr (Or.inr ⟨_, rfl, rfl, Response.sends_ofError _ _ id⟩)
    | internal message => exact Or.inr (Or.inr ⟨_, rfl, rfl, Response.sends_ofError _ _ id⟩)
    | _ => exact h.elim

/-- The three kinds of outcomes are told apart, and what is told of one is told of no other. -/
theorem reports_answer {outcome : (o.on value).Outcome} (h : Action.Told outcome) (id : RequestId) :
    ((o.answer outcome).identified id).Reports outcome := by
  have hsuccess := o.success_cases
  rcases answer_cases h id with ⟨x, rfl, ha⟩ | ⟨f, rfl, ha⟩ | ⟨f, rfl, hf, ha⟩
  · have hstatus := ha.status
    constructor
    · intro y
      rw [Except.ok.injEq]
      exact ⟨fun hy => json?_injective ((ha.body "").symm.trans (hy.body "")), fun h => h ▸ ha⟩
    · exact iff_of_true hstatus ⟨x, rfl⟩
    · exact fun f => iff_of_false (fun hf => by have := hf.status; omega) nofun
    · exact iff_of_false (by omega) nofun
    · exact iff_of_false (fun hs => by have := hs.status; omega) nofun
    · exact iff_of_false (by omega) nofun
  · have hstatus := ha.status
    have hnone : ¬∃ g, (Except.error (.token f) : (o.on value).Outcome) = .error g ∧ g.tokenFault? = none := by
      rintro ⟨g, hg, hnone⟩
      cases hg
      cases hnone
    constructor
    · exact fun y => iff_of_false (fun hy => by have := hy.status; omega) nofun
    · exact iff_of_false (by omega) nofun
    · intro g
      exact ⟨fun hg => by rw [ha.unique hg], fun hg => by cases hg; exact ha⟩
    · exact iff_of_true hstatus ⟨f, rfl⟩
    · exact iff_of_false (fun hs => by have := hs.status; omega) hnone
    · exact iff_of_false (by omega) hnone
  · have hstatus := ha.status
    have htoken : ∀ g, (Except.error f : (o.on value).Outcome) ≠ .error (.token g) := by
      rintro g hg
      cases hg
      cases hf
    constructor
    · exact fun y => iff_of_false (fun hy => by have := hy.status; omega) nofun
    · exact iff_of_false (by omega) nofun
    · exact fun g => iff_of_false (fun hg => by have := hg.status; omega) (htoken g)
    · exact iff_of_false (by omega) fun ⟨g, hg⟩ => htoken g hg
    · exact iff_of_true ha ⟨f, rfl, hf⟩
    · exact iff_of_true hstatus ⟨f, rfl, hf⟩

theorem status_answer_ne {outcome : (o.on value).Outcome} (h : Action.Told outcome) (id : RequestId) :
    ((o.answer outcome).identified id).status ≠ 400 := by
  have hsuccess := o.success_cases
  rcases answer_cases h id with ⟨x, -, ha⟩ | ⟨f, -, ha⟩ | ⟨f, -, -, ha⟩
  · have := ha.status
    omega
  · rw [ha.status]
    decide
  · rw [ha.status]
    decide

end Operation

theorem check_of_build {plan : Service.Plan} {svc : Service} (h : Service.build plan = .ok svc) :
    svc.policy.check = .ok () := by
  obtain ⟨hp, -, -, hservice⟩ := Service.build_eq_ok.1 h
  rw [hservice]
  exact hp

namespace App

variable {plan : Service.Plan} {app : App} {s : Surroundings} {r : Request} {o : Operation} {text : List UInt8}

theorem inMemory_id (hs : s.InMemory) (r : Request) : (s.run r.id).2.InMemory := by
  obtain ⟨n, asked, hbefore⟩ := run_id r s
  rw [hbefore]
  exact ⟨hs.shelf, hs.sound⟩

/-- Of a refused request there is nothing behind its number. -/
theorem handle_of_refused (s : Surroundings) (hr : r.Posts app.bodyLimit o text)
    (hno : ¬∃ value, o.value? text = some value ∧ o.Accepts value) :
    (∀ id, ((s.run (app.handle r)).1.1.identified id).Refuses) ∧ (s.run (app.handle r)).2 = (s.run r.id).2 := by
  obtain ⟨refusal, hserve, hrefuses⟩ := serve_of_refused hr hno
  rw [run_handle, hserve]
  exact ⟨hrefuses, rfl⟩

/-- With an accepted one the operation is performed, and the response follows from what it comes to. -/
theorem handle_of_accepted (s : Surroundings) (hr : r.Posts app.bodyLimit o text) {value : String}
    (hvalue : o.value? text = some value) (haccepts : o.Accepts value) :
    (s.run (app.handle r)).1.1 = o.answer ((s.run r.id).2.run (app.service.perform (o.on value))).1 ∧
      (s.run (app.handle r)).2 = ((s.run r.id).2.run (app.service.perform (o.on value))).2 := by
  rw [run_handle, serve_of_accepted hr hvalue haccepts, Surroundings.run_bind]
  cases ((s.run r.id).2.run (app.service.perform (o.on value))).1 <;> exact ⟨rfl, rfl⟩

theorem told_of_accepted (hbuild : Service.build plan = .ok app.service) (hs : s.InMemory) {value : String}
    (haccepts : o.Accepts value) :
    Action.Told ((s.run r.id).2.run (app.service.perform (o.on value))).1 ∧
      ((s.run r.id).2.run (app.service.perform (o.on value))).2.InMemory :=
  told_of_perform (check_of_build hbuild) (inMemory_id hs r) haccepts.names_user

theorem inMemory_handle (hbuild : Service.build plan = .ok app.service) (hs : s.InMemory)
    (hr : r.Posts app.bodyLimit o text) : (s.run (app.handle r)).2.InMemory := by
  by_cases haccepted : ∃ value, o.value? text = some value ∧ o.Accepts value
  · obtain ⟨value, hvalue, haccepts⟩ := haccepted
    rw [(handle_of_accepted s hr hvalue haccepts).2]
    exact (told_of_accepted hbuild hs haccepts).2
  · rw [(handle_of_refused s hr haccepted).2]
    exact inMemory_id hs r

/-- A request is refused for its body alone. -/
theorem status_handle_iff (hbuild : Service.build plan = .ok app.service) (hs : s.InMemory)
    (hr : r.Posts app.bodyLimit o text) :
    (s.run (app.handle r)).1.1.status = 400 ↔ ¬∃ value, o.value? text = some value ∧ o.Accepts value := by
  let id : RequestId := (s.run (app.handle r)).1.2
  by_cases haccepted : ∃ value, o.value? text = some value ∧ o.Accepts value
  · obtain ⟨value, hvalue, haccepts⟩ := haccepted
    rw [(handle_of_accepted s hr hvalue haccepts).1]
    exact iff_of_false (Operation.status_answer_ne (told_of_accepted hbuild hs haccepts).1 id)
      fun hno => hno ⟨value, hvalue, haccepts⟩
  · obtain ⟨_, _, hsends⟩ := (handle_of_refused s hr haccepted).1 id
    exact iff_of_true hsends.status haccepted

theorem run_exchange (app : App) (i : Inbound) (s : Surroundings) :
    s.run (app.exchange i) = ((s.run (app.handle i.request)).1.1.identified (s.run (app.handle i.request)).1.2,
      (s.run (app.handle i.request)).2) := by
  simp only [exchange, Call.bind_eq, Call.pure_eq, Surroundings.run_bind]
  rfl

end App

/-- The contract of the four operations, for a service as it is built, in any surroundings in memory and for every
posted body within the limit. The request is refused exactly if the body gives no value that is accepted, and then
no more has happened than that the request has been numbered. Otherwise what is sent tells the values of the result,
the kind of the fault of the token, or in all other cases one and the same, but for the time. Nothing is ever reported
as not found, and the surroundings stay what they were for the next request. -/
theorem response_of_posts {plan : Service.Plan} {app : App} (hbuild : Service.build plan = .ok app.service)
    {s : Surroundings} (hs : s.InMemory) {i : Inbound} {o : Operation} {text : List UInt8}
    (hi : i.request.Posts app.bodyLimit o text) :
    let before := (s.run i.request.id).2
    let out := (s.run (app.exchange i)).1
    let after := (s.run (app.exchange i)).2
    (∃ n asked, before = { s with requestIds := n, asked := asked }) ∧
      (∀ value resource, (before.run (app.service.perform (o.on value))).1 ≠ .error (.notFound resource)) ∧
      after.InMemory ∧
      (out.status = 400 ↔ ¬∃ value, o.value? text = some value ∧ o.Accepts value) ∧
      (out.status = 400 → out.Refuses ∧ after = before) ∧
      ∀ value, o.value? text = some value → o.Accepts value →
        out.Reports (before.run (app.service.perform (o.on value))).1 ∧
          after = (before.run (app.service.perform (o.on value))).2 := by
  rw [app.run_exchange i s]
  intro before out after
  have hmem : before.InMemory := App.inMemory_id hs i.request
  have hrefused : out.status = 400 ↔ _ := App.status_handle_iff hbuild hs hi
  refine ⟨App.run_id i.request s, fun value => perform_ne_notFound (check_of_build hbuild) hmem,
    App.inMemory_handle hbuild hs hi, hrefused, fun h => ?_, fun value hvalue haccepts => ?_⟩
  · obtain ⟨hrefuses, hafter⟩ := App.handle_of_refused s hi (hrefused.1 h)
    exact ⟨hrefuses _, hafter⟩
  · obtain ⟨hanswer, hafter⟩ := App.handle_of_accepted s hi hvalue haccepts
    refine ⟨?_, hafter⟩
    simp only [out, hanswer]
    exact Operation.reports_answer (App.told_of_accepted hbuild hs haccepts).1 _

/-- A value that was never issued is to be revoked. -/
theorem response_of_posts_unissued : ∃ app : App, ∃ i : Inbound, i.request = Request.post .revoke "x" ∧
    Service.build ⟨Policy.development, true, true, none⟩ = .ok app.service ∧
      ((Surroundings.start .epoch [] [] (.shelf Shelf.empty)).run (app.exchange i)).1.Challenges .invalid := by
  let app : App := ⟨⟨Policy.development, none⟩, App.defaultLimit⟩
  let i : Inbound := ⟨"POST", Operation.revoke.path, [("content-type", Utf8.bytes "application/json")],
    Operation.revoke.body "x"⟩
  have hbuild : Service.build ⟨Policy.development, true, true, none⟩ = .ok app.service :=
    Service.build_eq_ok.2 ⟨rfl, rfl, rfl, rfl⟩
  have hs : (Surroundings.start .epoch [] [] (.shelf Shelf.empty)).InMemory := Surroundings.inMemory_start _ _ _ _
  have hheader : Headers.text (Utf8.bytes "application/json") = "application/json" := by decide
  have hrequest : i.request = Request.post .revoke "x" := by
    simp only [i, Inbound.request, List.map_cons, List.map_nil, hheader]
    rfl
  have hi : i.request.Posts app.bodyLimit .revoke (Operation.revoke.body "x") :=
    hrequest ▸ Request.posts_post (by decide)
  obtain ⟨-, -, -, -, -, haccepted⟩ := response_of_posts hbuild hs hi
  obtain ⟨hreports, -⟩ := haccepted "x" (Operation.revoke.value?_body "x") (by decide)
  refine ⟨app, i, hrequest, hbuild, (hreports.challenges .invalid).2 ?_⟩
  rw [hrequest]
  rfl

end Bearer.Http
