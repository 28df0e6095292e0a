import Bearer.Proofs.Call.Action
import Bearer.Proofs.Signing.Parts
import Bearer.Service.Surroundings
/-! Verifying undoes signing, up to what whole seconds and the epoch take away. -/

namespace Bearer

open Signing

namespace Policy

theorem hash?_of_check {p : Policy} (hp : p.check = .ok ()) : ∃ h, p.algorithm.hash? = some h := by
  cases hhash : p.algorithm.hash? with
  | some h => exact ⟨h, rfl⟩
  | none =>
    by_cases hsecret : p.secret = "" <;> simp [check, defect?, hhash, hsecret] at hp

/-- What is signed: the header and the payload. -/
def signedText (p : Policy) (c : Claims) (id : Option Uuid) : List Char :=
  part (headerOf p.algorithm) ++ '.' :: part (Payload.ofClaims c id).toJson

theorem sign_eq {p : Policy} {h : Hash} (hh : p.algorithm.hash? = some h) (c : Claims) (id : Option Uuid) :
    p.sign c id = .ok (String.ofList (p.signedText c id ++ '.' :: p.signature h (p.signedText c id))) := by
  simp only [sign, hh, signedText]

/-- A text with a signature of its own and two written parts. -/
theorem claims?_of_parts {p : Policy} {h : Hash} (hh : p.algorithm.hash? = some h) {header body : List Char}
    (hheader : (part? header).bind header? = some p.algorithm) (hbody : '.' ∉ body) :
    p.claims? (String.ofList (header ++ '.' :: body ++ '.' :: p.signature h (header ++ '.' :: body))) =
      ((part? body).bind payload?).bind fun q => if q.iss = p.issuer then q.toClaims? else none := by
  have hmark : '.' ∉ p.signature h (header ++ '.' :: body) := Base64Url.dot_notMem_encode _
  simp only [claims?, hh, String.toList_ofList, splitLast?_append _ hmark, splitLast?_append _ hbody, hheader,
    Option.bind_eq_bind, Option.bind_some, true_and, if_true]

theorem claims?_sign {p : Policy} {h : Hash} (hh : p.algorithm.hash? = some h) (c : Claims) (id : Option Uuid) :
    p.claims? (String.ofList (p.signedText c id ++ '.' :: p.signature h (p.signedText c id))) =
      if c.issuer ≠ p.issuer ∨ c.expiresAt.floor < .epoch then none
      else some ⟨c.subject, c.issuer, c.issuedAt.floor, c.expiresAt.floor⟩ := by
  have hheader : (part? (part (headerOf p.algorithm))).bind header? = some p.algorithm := by
    rw [part?_part (isWritten_headerOf _), Option.bind_some, header?_headerOf]
  rw [signedText, claims?_of_parts hh hheader (dot_notMem_part _), part?_part (isWritten_toJson _), Option.bind_some,
    payload?_ofClaims]
  by_cases hpast : c.expiresAt.floor < .epoch
  · rw [if_pos hpast, if_pos (Or.inr hpast), Option.bind_none]
  · rw [if_neg hpast, Option.bind_some, toClaims?_ofClaims]
    by_cases hissuer : c.issuer = p.issuer
    · rw [if_neg (not_or.2 ⟨not_not.2 hissuer, hpast⟩)]
      exact if_pos hissuer
    · rw [if_pos (Or.inl hissuer)]
      exact if_neg hissuer

/-- Signing always succeeds, and the token verifies to its claims in whole seconds unless it is of another
issuer, ends before the epoch or is past its end. The clock is asked only for the latter. -/
theorem verify_sign {p : Policy} (hp : p.check = .ok ()) (c : Claims) (id : Option Uuid) :
    ∃ token, p.sign c id = .ok token ∧
      (p.verify token).run =
        if c.issuer ≠ p.issuer ∨ c.expiresAt.floor < .epoch then .done (.error (.token .invalid))
        else .ask .now fun now =>
          .done (if c.expiresAt.floor < now then .error (.token .expired)
            else .ok ⟨c.subject, c.issuer, c.issuedAt.floor, c.expiresAt.floor⟩) := by
  obtain ⟨h, hh⟩ := hash?_of_check hp
  refine ⟨_, sign_eq hh c id, ?_⟩
  rw [run_verify, claims?_sign hh]
  by_cases hbad : c.issuer ≠ p.issuer ∨ c.expiresAt.floor < .epoch
  · rw [if_pos hbad, if_pos hbad]
  · rw [if_neg hbad, if_neg hbad]

/-- A token of fractions of seconds, verified in the last instant at which it is good. -/
theorem verify_sign_in_time :
    Policy.development.check = .ok () ∧
      ∃ token,
        Policy.development.sign ⟨Uuid.ofNat 7, "tokenkeep", ⟨-1500000000, by omega, by omega⟩,
          ⟨5500000000, by omega, by omega⟩⟩ (some (Uuid.ofNat 9)) = .ok token ∧
        ((Policy.development.verify token).run.run Surroundings.answer
          (Surroundings.start ⟨5000000000, by omega, by omega⟩ [] [] (.shelf Shelf.empty))).1 =
            .ok ⟨Uuid.ofNat 7, "tokenkeep", ⟨-2000000000, by omega, by omega⟩, ⟨5000000000, by omega, by omega⟩⟩ := by
  refine ⟨rfl, ?_⟩
  obtain ⟨token, hsign, hverify⟩ := verify_sign (p := Policy.development) rfl ⟨Uuid.ofNat 7, "tokenkeep",
    ⟨-1500000000, by omega, by omega⟩, ⟨5500000000, by omega, by omega⟩⟩ (some (Uuid.ofNat 9))
  refine ⟨token, hsign, ?_⟩
  rw [hverify]
  rfl

end Policy

end Bearer
