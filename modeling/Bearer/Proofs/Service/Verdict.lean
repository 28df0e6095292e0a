import Bearer.Proofs.Cache.Owned
import Bearer.Proofs.Pool.Run
import Bearer.Proofs.Service.Requests
import Bearer.Proofs.Signing.Verify
/-! Three ways to ask whether an access token is good: for a yes or no, for its user, and for all that is known of
the user. They come to the same verdict in every state that a service with a cache can get into, whatever is under
way in it and however users come and go. -/

namespace Bearer

namespace Service

/-- What a service can be used for. -/
inductive Use
  | operation (op : Operation)
  | validate (token : String)
  | isValid (token : String)

abbrev Use.Outcome : Use → Type
  | operation op => op.Outcome
  | validate _ => Except Fault Uuid
  | isValid _ => Bool

def use (s : Service) : (u : Use) → Call u.Outcome
  | .operation op => s.perform op
  | .validate token => (s.validate token).run
  | .isValid token => s.isValid token

/-- The states of a service in memory, with the calls under way. It begins with nothing on the shelf; calls begin
and are answered in any order, the clock is set to any time, and users come, change and leave. -/
inductive Reachable (svc : Service) : Pool Surroundings Use.Outcome → Prop
  | start (now : Instant) (users : List Descriptor) (values : List String) :
      Reachable svc (Pool.start (Surroundings.start now users values (.shelf Shelf.empty)))
  | step {p q : Pool Surroundings Use.Outcome} {e : Pool.Event Use} : Reachable svc p →
      Pool.Step svc.use (fun s r a s' => s.answer r = (a, s')) p e q → Reachable svc q
  | clock {p : Pool Surroundings Use.Outcome} (now : Instant) : Reachable svc p →
      Reachable svc ⟨{ p.shared with now := now }, p.calls⟩
  | enter {p : Pool Surroundings Use.Outcome} (d : Descriptor) : Reachable svc p →
      Reachable svc ⟨{ p.shared with directory := p.shared.directory.insert d }, p.calls⟩
  | leave {p : Pool Surroundings Use.Outcome} (user : Uuid) : Reachable svc p →
      Reachable svc ⟨{ p.shared with directory := (p.shared.directory.remove user).2 }, p.calls⟩

variable {svc : Service} {ttl : Ttl} {space : List Char}

section

variable {c : TypedCache Descriptor}

theorem does_issue_allowed (p : Policy) (user : Uuid) : Action.Does c.Allows (fun _ => True) (p.issue user) := by
  simp [Policy.issue, Policy.accessToken, Policy.refreshToken, TypedCache.Allows]

theorem does_rotate_allowed (p : Policy) (v : String) : Action.Does c.Allows (fun _ => True) (p.rotate v) := by
  simp [Policy.rotate, Action.present, TypedCache.Allows, does_issue_allowed]

theorem does_withdraw_allowed (v : String) : Action.Does c.Allows (fun _ => True) (withdraw v) := by
  simp [withdraw, Action.present, TypedCache.Allows]

theorem does_verify_allowed (p : Policy) (token : String) :
    (p.verify token).run.Does c.Allows fun _ => True := by
  rw [Policy.run_verify]
  cases p.claims? token with
  | none => trivial
  | some c => exact ⟨trivial, fun _ => trivial⟩

end

/-- Nothing but a lookup writes to the cache, and only what belongs there. -/
theorem behaves_use (hcache : svc.cache = some (Descriptor.cache ttl space)) (u : Use) :
    (svc.use u).Behaves Request.Truthful (Descriptor.cache ttl space).Allows fun _ => True := by
  cases u with
  | operation op =>
    cases op with
    | issue user =>
      have hissue : Action.Does (Descriptor.cache ttl space).Allows (fun _ => True) (svc.issue user) := by
        unfold issue
        cases Uuid.parse? user with
        | none => simp
        | some id => simpa using does_issue_allowed svc.policy id
      exact Call.Does.behaves (Action.does_true.1 hissue)
    | refresh value =>
      have hrefresh : Action.Does (Descriptor.cache ttl space).Allows (fun _ => True) (svc.refresh value) := by
        simpa [refresh] using does_rotate_allowed svc.policy value
      exact Call.Does.behaves (Action.does_true.1 hrefresh)
    | revoke value => exact Call.Does.behaves (Action.does_true.1 (does_withdraw_allowed value))
    | introspect token =>
      simp only [use, perform, action, run_introspect, Call.behaves_bind]
      refine (Call.Does.behaves (does_verify_allowed svc.policy token)).mono fun r _ => ?_
      cases r with
      | error f => trivial
      | ok c =>
        simp only [Call.behaves_bind, lookup, hcache]
        exact (Descriptor.behaves_lookup c.subject).mono fun _ _ => trivial
  | validate token =>
    simp only [use, run_validate, Call.behaves_bind]
    exact (Call.Does.behaves (does_verify_allowed svc.policy token)).mono fun _ _ => trivial
  | isValid token =>
    simp only [use, isValid_eq, run_validate, Call.behaves_bind]
    exact (Call.Does.behaves (does_verify_allowed svc.policy token)).mono fun _ _ => trivial

/-- Whatever is under way, the directory and the shelf stay accurate and the calls behave. -/
theorem Reachable.accurate (hcache : svc.cache = some (Descriptor.cache ttl space))
    {p : Pool Surroundings Use.Outcome} (h : svc.Reachable p) :
    p.shared.Accurate (Descriptor.cache ttl space) ∧
      ∀ x ∈ p.calls, x.2.Behaves Request.Truthful (Descriptor.cache ttl space).Allows fun _ => True := by
  induction h with
  | start now users values => exact ⟨Surroundings.accurate_start _ now users values, fun x hx => by cases hx⟩
  | clock now _ ih => exact ⟨ih.1.later now, ih.2⟩
  | enter d _ ih => exact ⟨ih.1.enter d, ih.2⟩
  | leave user _ ih => exact ⟨ih.1.leave user, ih.2⟩
  | step _ hs ih =>
    obtain ⟨haccurate, hcalls⟩ := ih
    cases hs with
    | begin u =>
      refine ⟨haccurate, fun x hx => ?_⟩
      rcases List.mem_append.1 hx with hx | hx
      · exact hcalls x hx
      · cases List.mem_singleton.1 hx
        exact behaves_use hcache u
    | answer a hi hr =>
      obtain ⟨hallowed, hnext⟩ := hcalls _ (List.mem_of_getElem? hi)
      have hanswer := haccurate.answer hallowed
      rw [hr] at hanswer
      refine ⟨hanswer.2, fun x hx => ?_⟩
      rcases List.mem_or_eq_of_mem_set hx with hx | rfl
      · exact hcalls x hx
      · exact hnext a hanswer.1

/-- What verification comes to at a time: a fault of the token, or its claims once the clock has been read. -/
theorem verify_cases (policy : Policy) (token : String) (s : Surroundings) :
    (∃ f n, s.run (policy.verify token).run =
      (.error (.token f), { s with asked := s.asked ++ List.replicate n .now })) ∨
      ∃ c, s.run (policy.verify token).run = (.ok c, { s with asked := s.asked ++ [.now] }) := by
  rw [Policy.run_verify]
  cases policy.claims? token with
  | none => exact Or.inl ⟨.invalid, 0, by simp [Surroundings.run]⟩
  | some c =>
    have hrun : s.run (.ask .now fun now => .done (if c.expiresAt < now then .error (.token .expired) else .ok c)) =
        ((if c.expiresAt < s.now then .error (.token .expired) else .ok c : Except Fault Claims),
          { s with asked := s.asked ++ [.now] }) := rfl
    dsimp only
    rw [hrun]
    split
    · exact Or.inl ⟨.expired, 1, rfl⟩
    · exact Or.inr ⟨c, rfl⟩

/-- What the three ways come to behind the verdict of verification. -/
theorem run_behind_verify (svc : Service) (token : String) (s : Surroundings) :
    let verdict := s.run (svc.policy.verify token).run
    s.run (svc.validate token).run = (verdict.1.map Claims.subject, verdict.2) ∧
      s.run (svc.isValid token) = (verdict.1.toBool, verdict.2) ∧
      (∀ f, verdict.1 = .error f → s.run (svc.introspect token).run = (.error f, verdict.2)) ∧
      ∀ c, verdict.1 = .ok c → (s.run (svc.introspect token).run).1 =
        (verdict.2.run (svc.lookup c.subject).run).1.mapError (unknown c.subject) := by
  intro verdict
  have hvalidate : s.run (svc.validate token).run = (verdict.1.map Claims.subject, verdict.2) := by
    rw [run_validate, Surroundings.run_bind]
    rfl
  refine ⟨hvalidate, ?_, fun f hf => ?_, fun c hc => ?_⟩
  · rw [isValid_eq, Surroundings.run_bind, hvalidate]
    cases verdict.1 <;> rfl
  · rw [run_introspect, Surroundings.run_bind, show (s.run _).1 = _ from hf]
    rfl
  · rw [run_introspect, Surroundings.run_bind, show (s.run _).1 = _ from hc]
    dsimp only
    rw [Surroundings.run_bind]
    rfl

theorem cache_of_build {plan : Plan} {name : String} (hbuild : build plan = .ok svc)
    (hcache : plan.cache = some (ttl, name)) : svc.cache = some (Descriptor.cache ttl (spaceOf name)) := by
  obtain ⟨-, -, -, rfl⟩ := build_eq_ok.1 hbuild
  rw [hcache]
  rfl

/-- A lookup in accurate surroundings gives a descriptor of the user, or finds none; and it finds none where the
user is neither on the shelf nor in the directory. -/
theorem lookup_of_accurate {c : TypedCache Descriptor} {s : Surroundings} (hs : s.Accurate c) (user : Uuid) :
    ((∃ d, (s.run (c.lookup user).run).1 = .ok d ∧ d.user = user) ∨
        ∃ resource, (s.run (c.lookup user).run).1 = .error (.notFound resource)) ∧
      ∀ shelf, s.cache = .shelf shelf → shelf.get s.now (c.userKey user) = none →
        s.directory.users.get? user = none → ∃ resource, (s.run (c.lookup user).run).1 = .error (.notFound resource) := by
  constructor
  · obtain ⟨shelf, hshelf⟩ := hs.shelf
    cases hd : (s.run (c.lookup user).run).1 with
    | ok d => exact Or.inl ⟨d, rfl, hs.user_of_lookup hd⟩
    | error f =>
      rw [hs.lookup hshelf] at hd
      split at hd
      · cases hd
      · unfold Directory.resolve at hd
        split at hd
        · cases hd
        · cases hd
          exact Or.inr ⟨_, rfl⟩
  · intro shelf hshelf hget hunknown
    rw [hs.lookup hshelf, hget]
    simp [TypedCache.hit?, Directory.resolve, hunknown]

/-- A token at fault is told so in all three ways, and then nothing but the clock has been asked. -/
theorem verdict_of_fault {token : String} {s : Surroundings} {f : Fault} {s' : Surroundings}
    (h : s.run (svc.policy.verify token).run = (.error f, s')) :
    s.run (svc.validate token).run = (.error f, s') ∧ (s.run (svc.isValid token)).1 = false ∧
      s.run (svc.introspect token).run = (.error f, s') := by
  obtain ⟨hvalidate, hvalid, hfault, -⟩ := svc.run_behind_verify token s
  rw [h] at hvalidate hvalid hfault
  exact ⟨hvalidate, by rw [hvalid]; rfl, hfault f rfl⟩

/-- A good token is told to be of its user, of whom the lookup says more or nothing. -/
theorem verdict_of_claims (hsvc : svc.cache = some (Descriptor.cache ttl space)) {token : String} {s : Surroundings}
    {c : Claims} {s' : Surroundings} (h : s.run (svc.policy.verify token).run = (.ok c, s'))
    (hs : s'.Accurate (Descriptor.cache ttl space)) :
    (s.run (svc.validate token).run).1 = .ok c.subject ∧ (s.run (svc.isValid token)).1 = true ∧
      ((∃ d, (s.run (svc.introspect token).run).1 = .ok d ∧ d.user = c.subject) ∨
        ∃ message, (s.run (svc.introspect token).run).1 = .error (.repository message)) ∧
      ∀ shelf, s'.cache = .shelf shelf → shelf.get s'.now ((Descriptor.cache ttl space).userKey c.subject) = none →
        s'.directory.users.get? c.subject = none →
          ∃ message, (s.run (svc.introspect token).run).1 = .error (.repository message) := by
  obtain ⟨hvalidate, hvalid, -, hclaims⟩ := svc.run_behind_verify token s
  rw [h] at hvalidate hvalid hclaims
  have hintrospect := hclaims c rfl
  simp only [lookup, hsvc] at hintrospect
  obtain ⟨hlookup, hmissing⟩ := lookup_of_accurate hs c.subject
  refine ⟨by rw [hvalidate]; rfl, by rw [hvalid]; rfl, ?_, fun shelf hshelf hget hunknown => ?_⟩
  · rcases hlookup with ⟨d, hd, hsubject⟩ | ⟨resource, hresource⟩
    · exact Or.inl ⟨d, by rw [hintrospect, hd]; rfl, hsubject⟩
    · exact Or.inr ⟨_, by rw [hintrospect, hresource]; rfl⟩
  · obtain ⟨resource, hresource⟩ := hmissing shelf hshelf hget hunknown
    exact ⟨_, by rw [hintrospect, hresource]; rfl⟩

/-- The three ways agree on a token in every state that a service with a cache gets into, at any time. A fault of the
token is told without a word to the cache or the directory, and whose token it is does not depend on what is
cached. A genuine token of a user who is neither cached nor known is a fault of the data. -/
theorem verification_agrees {plan : Plan} {name : String} {p : Pool Surroundings Use.Outcome}
    (hbuild : build plan = .ok svc) (hcache : plan.cache = some (ttl, name)) (h : svc.Reachable p) (now : Instant)
    (token : String) :
    let s := { p.shared with now := now }
    let validated := (s.run (svc.validate token).run).1
    let introspected := s.run (svc.introspect token).run
    ((s.run (svc.isValid token)).1 = true ↔ ∃ user, validated = .ok user) ∧
      (∀ f, introspected.1 = .error (.token f) ↔ validated = .error (.token f)) ∧
      (∀ f, introspected.1 = .error (.token f) →
        ∃ n, introspected.2 = { s with asked := s.asked ++ List.replicate n .now }) ∧
      (∀ d, introspected.1 = .ok d → validated = .ok d.user) ∧
      (∀ resource, introspected.1 ≠ .error (.notFound resource)) ∧
      ∀ user shelf, validated = .ok user → s.cache = .shelf shelf →
        shelf.get now ((Descriptor.cache ttl (spaceOf name)).userKey user) = none →
        s.directory.users.get? user = none → ∃ message, introspected.1 = .error (.repository message) := by
  intro s validated introspected
  have hsvc : svc.cache = some (Descriptor.cache ttl (spaceOf name)) := cache_of_build hbuild hcache
  have hs : s.Accurate (Descriptor.cache ttl (spaceOf name)) := (h.accurate hsvc).1.later now
  rcases verify_cases svc.policy token s with ⟨f, n, hverify⟩ | ⟨c, hverify⟩
  · obtain ⟨hvalidate, hvalid, hintrospect⟩ := verdict_of_fault hverify
    have hvalidated : validated = .error (.token f) := congrArg Prod.fst hvalidate
    have hintrospected : introspected = _ := hintrospect
    rw [hvalid, hvalidated, hintrospected]
    exact ⟨by simp, fun f' => by simp, fun f' _ => ⟨n, rfl⟩, by simp, by simp, by simp⟩
  · obtain ⟨hvalidated, hvalid, hcases, hmissing⟩ := verdict_of_claims hsvc hverify (hs.recorded _)
    rw [show validated = _ from hvalidated, hvalid]
    have hfaults (f : Fault) (hf : introspected.1 = .error f) : ∃ message, f = .repository message := by
      rcases hcases with ⟨d, hd, -⟩ | ⟨message, hmessage⟩
      · cases hd.symm.trans hf
      · exact ⟨message, Except.error.inj (hf.symm.trans hmessage)⟩
    have hnone {f : TokenFault} (hf : introspected.1 = .error (.token f)) : False := by
      obtain ⟨message, hmessage⟩ := hfaults _ hf
      cases hmessage
    refine ⟨iff_of_true rfl ⟨_, rfl⟩, fun f => iff_of_false hnone (by simp), fun f hf => (hnone hf).elim, ?_, ?_, ?_⟩
    · intro d hd
      rcases hcases with ⟨d', hd', hsubject⟩ | ⟨message, hmessage⟩
      · cases hd'.symm.trans hd
        rw [hsubject]
      · cases hmessage.symm.trans hd
    · intro resource hr
      obtain ⟨message, hmessage⟩ := hfaults _ hr
      cases hmessage
    · rintro user shelf huser hshelf hget hunknown
      cases huser
      exact hmissing shelf hshelf hget hunknown

/-- The user of a token has left before anybody has looked him up. -/
theorem verification_agrees_left : ∃ svc token message,
    build ⟨Policy.development, true, true, some (Ttl.ofSeconds 60, "users")⟩ = .ok svc ∧
      Policy.development.sign ⟨Uuid.ofNat 7, "tokenkeep", .epoch, ⟨900000000000, by omega, by omega⟩⟩ none = .ok token ∧
      (Surroundings.run (svc.introspect token).run
        { Surroundings.start .epoch [⟨Uuid.ofNat 7, "ada"⟩] [] (.shelf Shelf.empty) with
          directory := ((Directory.ofList [⟨Uuid.ofNat 7, "ada"⟩]).remove (Uuid.ofNat 7)).2 }).1 =
        .error (.repository message) := by
  let svc : Service := ⟨Policy.development, some (Descriptor.cache (Ttl.ofSeconds 60) (spaceOf "users"))⟩
  have hbuild : build ⟨Policy.development, true, true, some (Ttl.ofSeconds 60, "users")⟩ = .ok svc :=
    build_eq_ok.2 ⟨rfl, rfl, rfl, rfl⟩
  obtain ⟨hash, hhash⟩ := Policy.hash?_of_check (p := Policy.development) rfl
  let c : Claims := ⟨Uuid.ofNat 7, "tokenkeep", .epoch, ⟨900000000000, by omega, by omega⟩⟩
  obtain ⟨token, hsign, hclaims⟩ : ∃ token, Policy.development.sign c none = .ok token ∧
      Policy.development.claims? token = some c :=
    ⟨_, Policy.sign_eq hhash c none, by rw [Policy.claims?_sign hhash]; rfl⟩
  have h : svc.Reachable _ := (Reachable.start .epoch [⟨Uuid.ofNat 7, "ada"⟩] []).leave (Uuid.ofNat 7)
  obtain ⟨-, -, -, -, -, hunknown⟩ := verification_agrees hbuild rfl h .epoch token
  obtain ⟨message, hmessage⟩ := hunknown (Uuid.ofNat 7) Shelf.empty
    (by rw [run_validate, Policy.run_verify, hclaims]; rfl) rfl rfl
    (by rw [Directory.remove, Table.get?_erase, if_pos rfl])
  exact ⟨_, token, message, hbuild, hsign, hmessage⟩

end Service

end Bearer

