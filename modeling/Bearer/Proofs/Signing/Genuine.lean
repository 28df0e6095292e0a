import Bearer.Proofs.Json.Record
import Bearer.Proofs.Signing.Verify
/-! What a token must be for its claims to count: three parts, of which the last is the signature of the
others, a header that names the algorithm of the policy, and a payload that states the claims. Every other
text is invalid at any time, and so is an issued token with another text behind its second dot. -/

namespace Bearer

theorem Algorithm.ofName?_eq_some {s : String} {a : Algorithm} : ofName? s = some a ↔ s = a.name := by
  refine ⟨fun h => ?_, fun h => h ▸ ofName?_name a⟩
  have hname : (a.name == s) = true := List.find?_some (p := fun a : Algorithm => a.name == s) h
  exact (beq_iff_eq.1 hname).symm

namespace Signing

/-- The member of a header that names the algorithm, the second one of an array. -/
def algorithmMember? : Json → Option Json
  | .obj members => members.lookup "alg"
  | .arr items => items[1]?
  | _ => none

theorem algorithm_of_header? {j : Json} {a : Algorithm} (h : header? j = some a) :
    (algorithmMember? j).bind Json.caseName? = some a.name := by
  obtain ⟨r, hr, h⟩ := Option.bind_eq_some_iff.1 h
  obtain ⟨-, -, h⟩ := Option.bind_eq_some_iff.1 h
  obtain ⟨b, hb, h⟩ := Option.bind_eq_some_iff.1 h
  simp only [Option.bind_eq_bind, Option.bind_eq_some_iff, Option.some.injEq, exists_and_right] at h
  obtain ⟨-, -, -, -, -, -, -, -, rfl⟩ := h
  obtain ⟨v, hv, hname⟩ := Option.bind_eq_some_iff.1 hb
  obtain ⟨s, hs, hname⟩ := Option.bind_eq_some_iff.1 hname
  rw [Algorithm.ofName?_eq_some] at hname
  have hmember : algorithmMember? j = some v := by
    rcases Json.Record.obj_or_arr hr with ⟨members, rfl⟩ | ⟨items, rfl⟩
    · rw [← hv, Json.Record.lookup_of_obj hr (by simp)]
      rfl
    · rw [← hv, (Json.Record.fields_of_arr hr).2]
      rcases items with _ | ⟨_, _ | ⟨_, _⟩⟩ <;> rfl
  rw [hmember, Option.bind_some, hs, hname]

/-- A header says what its member for the algorithm says. -/
theorem header?_eq_some {j : Json} {a : Algorithm} :
    header? j = some a ↔
      (header? j).isSome = true ∧ (algorithmMember? j).bind Json.caseName? = some a.name := by
  refine ⟨fun h => ⟨by rw [h]; rfl, algorithm_of_header? h⟩, fun ⟨hsome, ha⟩ => ?_⟩
  obtain ⟨b, hb⟩ := Option.isSome_iff_exists.1 hsome
  have hname : b.name = a.name := Option.some.inj ((algorithm_of_header? hb).symm.trans ha)
  rw [hb, ← Algorithm.ofName?_eq_some.2 hname, Algorithm.ofName?_name]

/-- The member is a whole number. -/
def IsWhole (i : Int) (member : Option Json) : Prop := ∃ n, member = some (.num n) ∧ n.toInt? = some i

theorem IsWhole.unique {i k : Int} {member : Option Json} (hi : IsWhole i member) (hk : IsWhole k member) : i = k := by
  obtain ⟨n, hn, hi⟩ := hi
  obtain ⟨m, hm, hk⟩ := hk
  cases hn.symm.trans hm
  exact Option.some.inj (hi.symm.trans hk)

theorem whole_of_signed64 {member : Option Json} {i : Int} (h : member.bind signed64 = some i) : IsWhole i member := by
  obtain ⟨j, hj, h⟩ := Option.bind_eq_some_iff.1 h
  cases j with
  | num n =>
    obtain ⟨k, hk, h⟩ := Option.bind_eq_some_iff.1 h
    split at h
    · cases h
      exact ⟨n, hj, hk⟩
    · cases h
  | _ => cases h

theorem str_of_text? {member : Option Json} {s : String} (h : member.bind Json.text? = some s) :
    member = some (.str s) := by
  obtain ⟨j, hj, h⟩ := Option.bind_eq_some_iff.1 h
  cases j with
  | str t => cases h; exact hj
  | _ => cases h

/-- A payload is an object, and its texts and times are those of the members of their names. -/
theorem members_of_payload? {j : Json} {q : Payload} (h : payload? j = some q) :
    ∃ members, j = .obj members ∧ members.lookup "sub" = some (.str q.sub) ∧
      members.lookup "iss" = some (.str q.iss) ∧ IsWhole q.iat (members.lookup "iat") ∧
      IsWhole q.exp (members.lookup "exp") := by
  obtain ⟨r, hr, h⟩ := Option.bind_eq_some_iff.1 h
  obtain ⟨sub, hsub, h⟩ := Option.bind_eq_some_iff.1 h
  obtain ⟨iss, hiss, h⟩ := Option.bind_eq_some_iff.1 h
  obtain ⟨iat, hiat, h⟩ := Option.bind_eq_some_iff.1 h
  obtain ⟨exp, hexp, h⟩ := Option.bind_eq_some_iff.1 h
  obtain ⟨jti, -, h⟩ := Option.bind_eq_some_iff.1 h
  dsimp only at h
  split at h
  case isFalse => cases h
  case isTrue hopen =>
    cases h
    rcases Json.Record.obj_or_arr hr with ⟨members, rfl⟩ | ⟨items, rfl⟩
    · have hlookup {name : String} := @Json.Record.lookup_of_obj _ members r hr name
      simp only [Json.Record.required] at hsub hiss hiat hexp
      rw [hlookup (by simp)] at hsub hiss hiat hexp
      exact ⟨members, rfl, str_of_text? hsub, str_of_text? hiss, whole_of_signed64 hiat, whole_of_signed64 hexp⟩
    · simp [(Json.Record.fields_of_arr hr).1] at hopen

/-- The members state the claims: whom by an identifier, whose by its name, and times in whole seconds. -/
structure States (members : List (String × Json)) (c : Claims) : Prop where
  subject : ∃ s, members.lookup "sub" = some (.str s) ∧ Uuid.parse? s = some c.subject
  issuer : members.lookup "iss" = some (.str c.issuer)
  issuedAt : ∃ i, IsWhole i (members.lookup "iat") ∧ c.issuedAt.nanos = i * 1000000000
  expiresAt : ∃ i, IsWhole i (members.lookup "exp") ∧ c.expiresAt.nanos = i * 1000000000

theorem toClaims?_eq_some {members : List (String × Json)} {q : Payload} (h : payload? (.obj members) = some q)
    {c : Claims} : q.toClaims? = some c ↔ States members c := by
  obtain ⟨_, hobj, hsub, hiss, hiat, hexp⟩ := members_of_payload? h
  cases hobj
  obtain ⟨sub, iss, iat, exp, jti⟩ := q
  constructor
  · intro hc
    obtain ⟨subject, hsubject, hc⟩ := Option.bind_eq_some_iff.1 hc
    obtain ⟨issuedAt, hissuedAt, hc⟩ := Option.bind_eq_some_iff.1 hc
    obtain ⟨expiresAt, hexpiresAt, hc⟩ := Option.bind_eq_some_iff.1 hc
    cases hc
    exact ⟨⟨sub, hsub, hsubject⟩, hiss, ⟨iat, hiat, Instant.ofNanos?_eq_some.1 hissuedAt⟩,
      ⟨exp, hexp, Instant.ofNanos?_eq_some.1 hexpiresAt⟩⟩
  · obtain ⟨subject, issuer, issuedAt, expiresAt⟩ := c
    rintro ⟨⟨s, hs, hsubject⟩, hissuer, ⟨i, hi, hissuedAt⟩, ⟨k, hk, hexpiresAt⟩⟩
    cases hsub.symm.trans hs
    cases hiss.symm.trans hissuer
    cases hiat.unique hi
    cases hexp.unique hk
    have hi : Instant.ofSeconds? iat = some issuedAt := Instant.ofNanos?_eq_some.2 hissuedAt
    have hk : Instant.ofSeconds? exp = some expiresAt := Instant.ofNanos?_eq_some.2 hexpiresAt
    simp [Payload.toClaims?, hsubject, hi, hk]

/-- A text has three parts in one way, if the first two have no dot. -/
theorem parts_unique {header body rest header' body' rest' : List Char} (hheader : '.' ∉ header) (hbody : '.' ∉ body)
    (hheader' : '.' ∉ header') (hbody' : '.' ∉ body')
    (h : header ++ '.' :: body ++ '.' :: rest = header' ++ '.' :: body' ++ '.' :: rest') :
    header = header' ∧ body = body' ∧ rest = rest' := by
  simp only [List.append_assoc, List.cons_append] at h
  obtain ⟨rfl, hrest⟩ := split_unique hheader hheader' h
  obtain ⟨rfl, rfl⟩ := split_unique hbody hbody' hrest
  exact ⟨rfl, rfl, rfl⟩

end Signing

open Signing

namespace Policy

/-- A token of three parts: a header that names the algorithm of the policy, a payload that states the claims
in the name of its issuer, both in order in all that a reader of them looks at, and the keyed digest of both. -/
def Genuine (p : Policy) (token : String) (c : Claims) : Prop :=
  ∃ hash header body j members,
    p.algorithm.hash? = some hash ∧
    token.toList = header ++ '.' :: body ++ '.' ::
      Base64Url.encode (hash.hmac (Utf8.bytes p.secret) (Utf8.encode (header ++ '.' :: body))) ∧
    part? header = some j ∧ (header? j).isSome = true ∧
    (algorithmMember? j).bind Json.caseName? = some p.algorithm.name ∧
    part? body = some (.obj members) ∧ (payload? (.obj members)).isSome = true ∧
    States members c ∧ c.issuer = p.issuer

/-- What a token with claims is made of, as far as its parts are read. -/
theorem parts_of_claims? {p : Policy} {token : String} {c : Claims} (h : p.claims? token = some c) :
    ∃ hash header body q, p.algorithm.hash? = some hash ∧
      token.toList = header ++ '.' :: body ++ '.' :: p.signature hash (header ++ '.' :: body) ∧
      (part? header).bind header? = some p.algorithm ∧ (part? body).bind payload? = some q ∧ q.iss = p.issuer ∧
      q.toClaims? = some c := by
  obtain ⟨hash, hhash, h⟩ := Option.bind_eq_some_iff.1 h
  obtain ⟨⟨text, mark⟩, htoken, h⟩ := Option.bind_eq_some_iff.1 h
  obtain ⟨⟨header, body⟩, htext, h⟩ := Option.bind_eq_some_iff.1 h
  obtain ⟨a, ha, h⟩ := Option.bind_eq_some_iff.1 h
  split at h
  case isFalse => cases h
  case isTrue hmark =>
    obtain ⟨q, hq, hclaims⟩ := Option.bind_eq_some_iff.1 h
    split at hclaims
    case isFalse => cases hclaims
    case isTrue hissuer =>
      obtain ⟨rfl, rfl⟩ := hmark
      obtain ⟨rfl, -⟩ := splitLast?_eq_some.1 htext
      obtain ⟨htoken, -⟩ := splitLast?_eq_some.1 htoken
      exact ⟨hash, header, body, q, hhash, htoken, ha, hq, hissuer, hclaims⟩

/-- The issuer of a payload is the one that its members state. -/
theorem issuer_of_states {members : List (String × Json)} {q : Payload} {c : Claims}
    (hq : payload? (.obj members) = some q) (h : States members c) : c.issuer = q.iss := by
  obtain ⟨_, hobj, -, hiss, -, -⟩ := members_of_payload? hq
  cases hobj
  exact Json.str.inj (Option.some.inj (h.issuer.symm.trans hiss))

theorem genuine_of_claims? {p : Policy} {token : String} {c : Claims} (h : p.claims? token = some c) :
    p.Genuine token c := by
  obtain ⟨hash, header, body, q, hhash, htoken, ha, hq, hissuer, hclaims⟩ := parts_of_claims? h
  obtain ⟨j, hj, ha⟩ := Option.bind_eq_some_iff.1 ha
  obtain ⟨b, hb, hq⟩ := Option.bind_eq_some_iff.1 hq
  obtain ⟨members, rfl, -⟩ := members_of_payload? hq
  obtain ⟨hheader, hname⟩ := header?_eq_some.1 ha
  have hstates : States members c := (toClaims?_eq_some hq).1 hclaims
  exact ⟨hash, header, body, j, members, hhash, htoken, hj, hheader, hname, hb, by rw [hq]; rfl, hstates,
    (issuer_of_states hq hstates).trans hissuer⟩

theorem Genuine.claims? {p : Policy} {token : String} {c : Claims} (h : p.Genuine token c) :
    p.claims? token = some c := by
  obtain ⟨hash, header, body, j, members, hhash, htoken, hj, hheader, hname, hbody, hsome, hstates, hissuer⟩ := h
  obtain ⟨q, hq⟩ := Option.isSome_iff_exists.1 hsome
  have ha : (part? header).bind header? = some p.algorithm := by
    rw [hj]
    exact header?_eq_some.2 ⟨hheader, hname⟩
  rw [← String.ofList_toList (s := token), htoken]
  refine (claims?_of_parts hhash ha (dot_notMem_of_part? hbody)).trans ?_
  rw [hbody, Option.bind_some, hq, Option.bind_some, if_pos ((issuer_of_states hq hstates).symm.trans hissuer),
    (toClaims?_eq_some hq).2 hstates]

/-- The claims of a token are those of a genuine one. -/
theorem claims?_eq_some {p : Policy} {token : String} {c : Claims} : p.claims? token = some c ↔ p.Genuine token c :=
  ⟨genuine_of_claims?, Genuine.claims?⟩

/-- Nothing else goes with the first two parts of a genuine token. -/
theorem Genuine.mark {p : Policy} {token : String} {c : Claims} (h : p.Genuine token c) {hash : Hash}
    (hhash : p.algorithm.hash? = some hash) {header body mark : List Char} (hheader : '.' ∉ header) (hbody : '.' ∉ body)
    (htoken : token.toList = header ++ '.' :: body ++ '.' :: mark) : mark = p.signature hash (header ++ '.' :: body) := by
  obtain ⟨hash', header', body', j, members, hhash', htoken', hj, -, -, hb, -⟩ := h
  cases hhash.symm.trans hhash'
  obtain ⟨rfl, rfl, rfl⟩ := parts_unique hheader hbody (dot_notMem_of_part? hj) (dot_notMem_of_part? hb)
    (htoken.symm.trans htoken')
  rfl

/-- A token is accepted or reported as expired only if it is genuine, with the claims that it states, and
which of the two depends on the clock alone. Every other text is invalid, and the clock is not even asked.
So is an issued token with anything else behind its second dot. -/
theorem verify_genuine {p : Policy} (hp : p.check = .ok ()) :
    (∀ token,
      (∃ c, p.Genuine token c ∧
        (p.verify token).run = .ask .now fun now =>
          .done (if c.expiresAt < now then .error (.token .expired) else .ok c)) ∨
      (∀ c, ¬p.Genuine token c) ∧ (p.verify token).run = .done (.error (.token .invalid))) ∧
    ∀ c id header body mark mark',
      p.sign c id = .ok (String.ofList (header ++ '.' :: body ++ '.' :: mark)) →
      '.' ∉ header → '.' ∉ body → mark' ≠ mark →
      (p.verify (String.ofList (header ++ '.' :: body ++ '.' :: mark'))).run =
        .done (.error (.token .invalid)) := by
  constructor
  · intro token
    rw [run_verify]
    cases hc : p.claims? token with
    | some c => exact Or.inl ⟨c, claims?_eq_some.1 hc, rfl⟩
    | none =>
      refine Or.inr ⟨fun c h => ?_, rfl⟩
      rw [claims?_eq_some.2 h] at hc
      cases hc
  · intro c id header body mark mark' hsign hheader hbody hne
    obtain ⟨hash, hhash⟩ := hash?_of_check hp
    rw [sign_eq hhash, Except.ok.injEq, String.ofList_inj, signedText] at hsign
    obtain ⟨rfl, rfl, rfl⟩ := parts_unique (dot_notMem_part _) (dot_notMem_part _) hheader hbody hsign
    rw [run_verify]
    cases hc : p.claims? _ with
    | none => rfl
    | some c' =>
      exact absurd ((claims?_eq_some.1 hc).mark hhash hheader hbody (String.toList_ofList)) hne

/-- A token of the first second, genuine, and what becomes of it with one more character. -/
theorem verify_genuine_lengthened :
    Policy.development.check = .ok () ∧
      ∃ header body mark,
        Policy.development.Genuine (String.ofList (header ++ '.' :: body ++ '.' :: mark))
          ⟨Uuid.ofNat 7, "tokenkeep", .epoch, ⟨1000000000, by omega, by omega⟩⟩ ∧
        (Policy.development.verify (String.ofList (header ++ '.' :: body ++ '.' :: (mark ++ ['A'])))).run =
          .done (.error (.token .invalid)) := by
  have hhash : Policy.development.algorithm.hash? = some .sha256 := rfl
  let c : Claims := ⟨Uuid.ofNat 7, "tokenkeep", .epoch, ⟨1000000000, by omega, by omega⟩⟩
  refine ⟨rfl, _, _, _, claims?_eq_some.1 (claims?_sign hhash c none), ?_⟩
  refine (verify_genuine (p := Policy.development) rfl).2 c none _ _ _ _ (sign_eq hhash c none) ?_ ?_ ?_
  · exact dot_notMem_part _
  · exact dot_notMem_part _
  · simp

end Policy

end Bearer
