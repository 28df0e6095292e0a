import Bearer.Proofs.Http.Contract
import Bearer.Proofs.Service.Issued
import Bearer.Proofs.Signing.Length
/-! Tokens that come back to the service that has issued them. Requests are refused for values that are too long, and
how long a token is, is up to the policy: nothing keeps its issuer or its refresh values short enough. -/

namespace Bearer.Http

variable {plan : Service.Plan} {app : App} {s : Surroundings} {r : Request} {o : Operation} {text : List UInt8}
  {g : Grant}

/-- Only issuing and exchanging are answered with a grant. -/
theorem outcome_of_granted (hbuild : Service.build plan = .ok app.service) (hs : s.InMemory)
    (hr : r.Posts app.bodyLimit o text) (hg : (s.run (app.handle r)).1.1 = ⟨200, false, .grant g⟩) :
    ∃ value, (o = .issue ∧ ((s.run r.id).2.run (app.service.issue value).run).1 = .ok g) ∨
      o = .refresh ∧ ((s.run r.id).2.run (app.service.refresh value).run).1 = .ok g := by
  have hstatus : (s.run (app.handle r)).1.1.status ≠ 400 := by
    rw [hg]
    exact (by decide : 200 ≠ 400)
  obtain ⟨value, hvalue, haccepts⟩ :=
    Decidable.not_not.1 fun hno => hstatus ((App.status_handle_iff hbuild hs hr).2 hno)
  have hanswer := (App.handle_of_accepted s hr hvalue haccepts).1
  have htold := (App.told_of_accepted (r := r) hbuild hs haccepts).1
  rw [hg] at hanswer
  refine ⟨value, ?_⟩
  cases houtcome : ((s.run r.id).2.run (app.service.perform (o.on value))).1 with
  | ok x =>
    rw [houtcome] at hanswer
    cases o with
    | issue =>
      cases hanswer
      exact Or.inl ⟨rfl, houtcome⟩
    | refresh =>
      cases hanswer
      exact Or.inr ⟨rfl, houtcome⟩
    | _ => cases hanswer
  | error f =>
    rw [houtcome] at hanswer htold
    cases f with
    | token f => cases hanswer
    | repository message => cases hanswer
    | internal message => cases hanswer
    | _ => exact htold.elim

/-- The access token of a grant is of the length for its time, and its refresh value is the next of the generator. -/
theorem length_of_granted (hbuild : Service.build plan = .ok app.service) (hs : s.InMemory)
    (hr : r.Posts app.bodyLimit o text) (hg : (s.run (app.handle r)).1.1 = ⟨200, false, .grant g⟩) {v : String}
    {rest : List String} (hvalues : s.values = v :: rest) :
    g.access.length = app.service.policy.accessLength s.now ∧ g.refresh = v := by
  obtain ⟨n, asked, hbefore⟩ := App.run_id r s
  have hmakes : app.service.policy.Makes s.now v g.access g.refresh := by
    have hnow : (s.run r.id).2.now = s.now := by rw [hbefore]
    have hvalues : (s.run r.id).2.values = v :: rest := by rw [hbefore]; exact hvalues
    rw [← hnow]
    obtain ⟨value, ⟨-, hissue⟩ | ⟨-, hrefresh⟩⟩ := outcome_of_granted hbuild hs hr hg
    · exact Service.makes_of_issue hvalues (Prod.ext hissue rfl)
    · exact Service.makes_of_refresh hvalues (Prod.ext hrefresh rfl)
  obtain ⟨user, id, expiresAt, hexpires, hsign⟩ := hmakes.signed
  exact ⟨Policy.length_sign hexpires hsign, hmakes.drawn⟩

/-- Whether the service takes back what it has issued, at any time and for any user, is up to its policy alone. An
access token that comes back is refused as too long exactly if its length for the time is over the bound, and a refresh
value of random bytes, to be exchanged or revoked, exactly if twice their number is. -/
theorem returned_refused_iff (hbuild : Service.build plan = .ok app.service) (hs : s.InMemory)
    (hr : r.Posts app.bodyLimit o text) (hg : (s.run (app.handle r)).1.1 = ⟨200, false, .grant g⟩) {bytes : List UInt8}
    {rest : List String} (hvalues : s.values = refreshValue bytes :: rest)
    (hbytes : bytes.length = app.service.policy.refreshBytes) :
    let status (r' : Request) := ((s.run (app.handle r)).2.run (app.handle r')).1.1.status
    (∀ r' text', r'.Posts app.bodyLimit .introspect text' → Operation.introspect.value? text' = some g.access →
        (status r' = 400 ↔ 4096 < app.service.policy.accessLength s.now)) ∧
      ∀ o' r' text', o' = .refresh ∨ o' = .revoke → r'.Posts app.bodyLimit o' text' →
        o'.value? text' = some g.refresh → (status r' = 400 ↔ 4096 < 2 * app.service.policy.refreshBytes) := by
  intro status
  obtain ⟨haccess, hrefresh⟩ := length_of_granted hbuild hs hr hg hvalues
  have hafter : (s.run (app.handle r)).2.InMemory := App.inMemory_handle hbuild hs hr
  have hstatus {o' : Operation} {r' : Request} {text' : List UInt8} {value : String}
      (hr' : r'.Posts app.bodyLimit o' text') (hvalue : o'.value? text' = some value) :
      status r' = 400 ↔ ¬o'.Accepts value := by
    refine (App.status_handle_iff hbuild hafter hr').trans (not_congr ?_)
    constructor
    · rintro ⟨value', hvalue', haccepts⟩
      cases hvalue.symm.trans hvalue'
      exact haccepts
    · exact fun haccepts => ⟨value, hvalue, haccepts⟩
  constructor
  · intro r' text' hr' hvalue
    rw [hstatus hr' hvalue, ← haccess]
    exact Nat.not_le
  · intro o' r' text' ho' hr' hvalue
    rw [hstatus hr' hvalue, ← hbytes, ← length_refreshValue, ← hrefresh]
    rcases ho' with rfl | rfl <;> exact Nat.not_le

/-- A policy that is in order, with refresh values of 2049 bytes: what has just been issued cannot be revoked. -/
theorem returned_refused_iff_longer : ∃ app : App, ∃ g,
    Service.build ⟨{ Policy.development with refreshBytes := 2049 }, true, true, none⟩ = .ok app.service ∧
      let granted := (Surroundings.start .epoch [] [refreshValue (List.replicate 2049 0)] (.shelf Shelf.empty)).run
        (app.handle (Request.post .issue (Uuid.ofNat 7).text))
      granted.1.1 = ⟨200, false, .grant g⟩ ∧
        (granted.2.run (app.handle (Request.post .revoke g.refresh))).1.1.status = 400 := by
  let policy : Policy := { Policy.development with refreshBytes := 2049 }
  let user : String := (Uuid.ofNat 7).text
  let value : String := refreshValue (List.replicate 2049 0)
  let app : App := ⟨⟨policy, none⟩, (Operation.issue.body user).length + (Operation.revoke.body value).length⟩
  let s : Surroundings := Surroundings.start .epoch [] [value] (.shelf Shelf.empty)
  have hbuild : Service.build ⟨policy, true, true, none⟩ = .ok app.service :=
    Service.build_eq_ok.2 ⟨rfl, rfl, rfl, rfl⟩
  have hs : s.InMemory := Surroundings.inMemory_start _ _ _ _
  have hr : (Request.post .issue user).Posts app.bodyLimit .issue (Operation.issue.body user) :=
    Request.posts_post (Nat.le_add_right _ _)
  have haccepts : Operation.issue.Accepts user := by
    refine ⟨?_, ?_, ?_⟩
    · rw [Uuid.length_text]
      decide
    · rw [Uuid.length_text]
      decide
    · rw [Uuid.parse?_text]
      rfl
  obtain ⟨g, houtcome⟩ : ∃ g, ((s.run (Request.post .issue user).id).2.run (app.service.issue user).run).1 = .ok g := by
    simp only [Service.issue, user, Uuid.parse?_text]
    exact ⟨_, rfl⟩
  have hg : (s.run (app.handle (Request.post .issue user))).1.1 = ⟨200, false, .grant g⟩ := by
    rw [(App.handle_of_accepted s hr (Operation.issue.value?_body user) haccepts).1]
    exact congrArg Operation.issue.answer houtcome
  have hrefresh : g.refresh = value := (length_of_granted hbuild hs hr hg rfl).2
  have hr' : (Request.post .revoke g.refresh).Posts app.bodyLimit .revoke (Operation.revoke.body g.refresh) := by
    rw [hrefresh]
    exact Request.posts_post (Nat.le_add_left _ _)
  have hrefused := (returned_refused_iff hbuild hs hr hg rfl List.length_replicate).2 .revoke _ _ (Or.inr rfl) hr'
    (Operation.revoke.value?_body g.refresh)
  exact ⟨app, g, hbuild, hg, hrefused.2 (by decide)⟩

end Bearer.Http
