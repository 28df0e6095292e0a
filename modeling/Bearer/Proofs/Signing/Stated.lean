import Bearer.Proofs.Signing.Verify
/-! What a signed token says of itself. Its payload can be read off it without the secret, and it names the subject, the
issuer, both times in whole seconds and the identifier, so tokens that differ in one of these are different texts. -/

namespace Bearer

namespace Signing

/-- What stands between the two last dots of a token. -/
def stated? (token : String) : Option Json := do
  let (text, _) ← splitLast? token.toList
  let (_, body) ← splitLast? text
  part? body

theorem stated?_of_parts {header body mark : List Char} (hbody : '.' ∉ body) (hmark : '.' ∉ mark) :
    stated? (String.ofList (header ++ '.' :: body ++ '.' :: mark)) = part? body := by
  simp only [stated?, String.toList_ofList, splitLast?_append _ hmark, splitLast?_append _ hbody, Option.bind_eq_bind,
    Option.bind_some]

theorem ofInt_injective {i k : Int} (h : Json.ofInt i = Json.ofInt k) : i = k := by
  have hread := congrArg Numeral.toInt? (Json.num.inj h)
  rw [Numeral.toInt?_ofInt, Numeral.toInt?_ofInt] at hread
  exact Option.some.inj hread

theorem toJson_injective {q r : Payload} (h : q.toJson = r.toJson) : q = r := by
  obtain ⟨sub, iss, iat, exp, jti⟩ := q
  obtain ⟨sub', iss', iat', exp', jti'⟩ := r
  simp only [Payload.toJson, Json.obj.injEq, List.cons_append, List.nil_append, List.cons.injEq, Prod.mk.injEq,
    Json.str.injEq, true_and] at h
  obtain ⟨rfl, rfl, hiat, hexp, hjti⟩ := h
  obtain rfl := ofInt_injective hiat
  obtain rfl := ofInt_injective hexp
  cases jti <;> cases jti' <;> simp_all

end Signing

open Signing

namespace Policy

variable {p : Policy}

/-- The payload that is signed can be read off the token. -/
theorem stated?_of_sign {c : Claims} {id : Option Uuid} {token : String} (h : p.sign c id = .ok token) :
    stated? token = some (Payload.ofClaims c id).toJson := by
  unfold sign at h
  split at h
  · cases h
  · rw [← Except.ok.inj h]
    exact (stated?_of_parts (dot_notMem_part _) (Base64Url.dot_notMem_encode _)).trans (part?_part (isWritten_toJson _))

/-- Two tokens of one text were signed for the same payload, under whatever policies. -/
theorem ofClaims_eq_of_sign {p' : Policy} {c c' : Claims} {id id' : Option Uuid} {token : String}
    (h : p.sign c id = .ok token) (h' : p'.sign c' id' = .ok token) : Payload.ofClaims c id = Payload.ofClaims c' id' :=
  toJson_injective (Option.some.inj ((stated?_of_sign h).symm.trans (stated?_of_sign h')))

theorem claims_eq_of_ofClaims {c c' : Claims} {id id' : Uuid}
    (h : Payload.ofClaims c (some id) = Payload.ofClaims c' (some id')) :
    id = id' ∧ c.subject = c'.subject ∧ c.issuer = c'.issuer ∧ c.issuedAt.seconds = c'.issuedAt.seconds ∧
      c.expiresAt.seconds = c'.expiresAt.seconds := by
  simp only [Payload.ofClaims, Payload.mk.injEq, Option.map_some, Option.some.injEq] at h
  obtain ⟨hsub, hiss, hiat, hexp, hjti⟩ := h
  exact ⟨Uuid.text_injective hjti, Uuid.text_injective hsub, hiss, hiat, hexp⟩

end Policy

end Bearer
