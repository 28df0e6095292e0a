import Bearer.Proofs.Service.Requests
import Bearer.Proofs.Signing.Verify
import Bearer.Proofs.Uuid
/-! How long a signed token is. Header and signature depend on the algorithm alone, the payload on the issuer and on
how the times are written; whose token it is does not matter. -/

namespace Bearer

namespace Base64Url

/-- The characters that so many bytes take. -/
def size (bytes : Nat) : Nat := (4 * bytes + 2) / 3

theorem length_encode (bs : List UInt8) : (encode bs).length = size bs.length := by
  rw [encode, List.length_map]
  fun_induction digits bs with
  | case1 => rfl
  | case2 a => simp [size]
  | case3 a b => simp [size]
  | case4 a b c rest ih =>
    simp only [List.length_cons, ih, size]
    omega

end Base64Url

namespace Sha2

theorem length_bigEndian (k n : Nat) : (bigEndian k n).length = k := by
  induction k with
  | zero => rfl
  | succ k ih => rw [bigEndian, List.length_cons, ih]

theorem length_hash {W : Type} [Add W] [XorOp W] [AndOp W] [Complement W] (F : Family W) (start : State W) {size : Nat}
    (h : size ≤ 8 * F.wordBytes) (message : List UInt8) : (F.hash start size message).length = size := by
  simp only [Family.hash, State.words, List.length_take, List.length_flatMap, List.map_cons, List.map_nil,
    length_bigEndian, List.sum_cons, List.sum_nil]
  omega

end Sha2

namespace Hash

/-- The bytes of a digest. -/
def size : Hash → Nat
  | sha256 => 32
  | sha384 => 48
  | sha512 => 64

theorem length_digest (h : Hash) (message : List UInt8) : (h.digest message).length = h.size := by
  cases h with
  | sha256 => exact Sha2.length_hash _ _ (by decide) message
  | sha384 => exact Sha2.length_hash _ _ (by decide) message
  | sha512 => exact Sha2.length_hash _ _ (by decide) message

end Hash

namespace Utf8

@[simp] theorem encode_append (cs ds : List Char) : encode (cs ++ ds) = encode cs ++ encode ds := List.flatMap_append

@[simp] theorem encode_cons (c : Char) (cs : List Char) : encode (c :: cs) = String.utf8EncodeChar c ++ encode cs := rfl

@[simp] theorem encode_nil : encode [] = [] := rfl

end Utf8

namespace Json

/-- The bytes that a value takes as text. -/
def size (j : Json) : Nat := (Utf8.encode j.chars).length

/-- A character that is written as it is, in one byte. -/
def IsPlain (c : Char) : Prop := escape c = [c] ∧ c.utf8Size = 1

theorem size_str_of_plain {s : String} (h : ∀ c ∈ s.toList, IsPlain c) : size (.str s) = s.length + 2 := by
  have hplain : ∀ cs : List Char, (∀ c ∈ cs, IsPlain c) → (Utf8.encode (cs.flatMap escape)).length = cs.length := by
    intro cs hcs
    induction cs with
    | nil => rfl
    | cons c cs ih =>
      obtain ⟨hescape, hsize⟩ := hcs c (by simp)
      rw [List.flatMap_cons, hescape, Utf8.encode_append, List.length_append, ih fun d hd => hcs d (by simp [hd])]
      simp [hsize, Nat.add_comm]
  have hquote : '"'.utf8Size = 1 := by decide
  rw [size, chars, quoted, Utf8.encode_append, Utf8.encode_cons, List.length_append, List.length_append,
    hplain s.toList h, String.length_toList]
  simp [hquote]
  omega

/-- The members of an object and its closing brace. -/
def memberSize (members : List (String × Json)) : Nat := (Utf8.encode (memberChars members)).length

theorem size_obj (members : List (String × Json)) : size (.obj members) = 1 + memberSize members := by
  rw [size, chars, Utf8.encode_cons, List.length_append, memberSize]
  rfl

theorem memberSize_single (m : String × Json) : memberSize [m] = size (.str m.1) + m.2.size + 2 := by
  obtain ⟨k, v⟩ := m
  have hcolon : ':'.utf8Size = 1 := by decide
  have hbrace : '\x7d'.utf8Size = 1 := by decide
  rw [memberSize, memberChars, Utf8.encode_append, Utf8.encode_append, Utf8.encode_cons]
  simp only [List.length_append, String.length_utf8EncodeChar, hcolon, hbrace, Utf8.encode_cons, Utf8.encode_nil,
    List.length_nil, size, chars]
  omega

theorem memberSize_cons (m n : String × Json) (ms : List (String × Json)) :
    memberSize (m :: n :: ms) = size (.str m.1) + m.2.size + 2 + memberSize (n :: ms) := by
  obtain ⟨k, v⟩ := m
  have hcolon : ':'.utf8Size = 1 := by decide
  have hcomma : ','.utf8Size = 1 := by decide
  have hchars : memberChars ((k, v) :: n :: ms) = quoted k.toList ++ ':' :: chars v ++ ',' :: memberChars (n :: ms) := by
    rw [memberChars]
    exact List.cons_ne_nil n ms
  rw [memberSize, hchars, Utf8.encode_append, Utf8.encode_append, Utf8.encode_cons, Utf8.encode_cons]
  simp only [List.length_append, String.length_utf8EncodeChar, hcolon, hcomma, size, chars, memberSize]
  omega

end Json

namespace Uuid

theorem isPlain_text (u : Uuid) : ∀ c ∈ u.text.toList, Json.IsPlain c := by
  refine forall_mem_text ?_ ⟨by decide, by decide⟩ u
  unfold Json.IsPlain
  decide

end Uuid

namespace Signing

theorem length_part (j : Json) : (part j).length = Base64Url.size j.size := Base64Url.length_encode _

/-- The header is of the same length under each algorithm with a hash. -/
theorem length_headerOf {a : Algorithm} {h : Hash} (ha : a.hash? = some h) : (part (headerOf a)).length = 36 := by
  rw [length_part]
  cases a with
  | hs256 => decide
  | hs384 => decide
  | hs512 => decide
  | _ => cases ha

/-- A payload under an identifier takes what its issuer and its times take, beside all that is always the same. -/
theorem size_payload (c : Claims) (id : Uuid) :
    (Payload.ofClaims c (some id)).toJson.size =
      112 + Json.size (.str c.issuer) + Json.size (.ofInt c.issuedAt.seconds) + Json.size (.ofInt c.expiresAt.seconds) := by
  have hsubject := Json.size_str_of_plain c.subject.isPlain_text
  have hid := Json.size_str_of_plain id.isPlain_text
  rw [Uuid.length_text] at hsubject hid
  simp only [Payload.toJson, Payload.ofClaims, Option.map_some, List.cons_append, List.nil_append, Json.size_obj,
    Json.memberSize_cons, Json.memberSize_single, hsubject, hid]
  have hsub : Json.size (.str "sub") = 5 := by decide
  have hiss : Json.size (.str "iss") = 5 := by decide
  have hiat : Json.size (.str "iat") = 5 := by decide
  have hexp : Json.size (.str "exp") = 5 := by decide
  have hjti : Json.size (.str "jti") = 5 := by decide
  omega

end Signing

open Signing

namespace Policy

/-- The length of an access token that is issued at a time: header and two dots, payload, and signature. -/
def accessLength (p : Policy) (now : Instant) : Nat :=
  let payload := 112 + Json.size (.str p.issuer) + Json.size (.ofInt now.seconds) +
    Json.size (.ofInt ((now.nanos + p.accessTtl.nanos) / 1000000000))
  38 + Base64Url.size payload + Base64Url.size (p.algorithm.hash?.elim 0 Hash.size)

theorem length_sign {p : Policy} {user id : Uuid} {now expiresAt : Instant} {token : String}
    (hexpiry : expiry now p.accessTtl = .ok expiresAt)
    (h : p.sign ⟨user, p.issuer, now, expiresAt⟩ (some id) = .ok token) : token.length = p.accessLength now := by
  cases hhash : p.algorithm.hash? with
  | none =>
    rw [sign, hhash] at h
    cases h
  | some hash =>
    rw [sign_eq hhash, Except.ok.injEq] at h
    have hends : expiresAt.seconds = (now.nanos + p.accessTtl.nanos) / 1000000000 := by
      rw [Instant.seconds, Instant.add?_eq_some.1 (add?_of_expiry hexpiry)]
    rw [← h, String.length_ofList, signedText, signature, List.length_append, List.length_append, List.length_cons,
      List.length_cons, length_headerOf hhash, length_part, size_payload, Base64Url.length_encode, Hash.hmac,
      Hash.length_digest, accessLength, hhash, hends]
    simp only [Option.elim_some]
    omega

end Policy

end Bearer
