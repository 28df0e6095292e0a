import Bearer.Json.Reader
import Bearer.Json.Writer
import Bearer.Policy
import Bearer.Signing.Claims
import Bearer.Signing.Header
import Bearer.Text.Base64Url
/-! Signed tokens as text: header, payload and signature in base64url, with a dot between them. The
signature is the keyed digest of what stands before the second dot. A token is accepted if the signature
is the very text that signing would give, and its header and payload are in order. -/

namespace Bearer

namespace Signing

def part (j : Json) : List Char := Base64Url.encode (Utf8.encode j.chars)

def part? (cs : List Char) : Option Json := (Base64Url.decode cs).bind Json.ofBytes?

/-- What stands before and after the last dot. -/
def splitLast? (cs : List Char) : Option (List Char × List Char) :=
  let after := (cs.reverse.takeWhile (· ≠ '.')).reverse
  if after.length < cs.length then some (cs.take (cs.length - after.length - 1), after) else none

end Signing

open Signing

namespace Policy

def signature (p : Policy) (h : Hash) (text : List Char) : List Char :=
  Base64Url.encode (h.hmac (Utf8.bytes p.secret) (Utf8.encode text))

/-- The token that states some claims, under an identifier of its own if one is given. -/
def sign (p : Policy) (c : Claims) (id : Option Uuid) : Except Fault String :=
  match p.algorithm.hash? with
  | none => .error (.internal "Failed to sign access token")
  | some h =>
    let text := part (headerOf p.algorithm) ++ '.' :: part (Payload.ofClaims c id).toJson
    .ok (String.ofList (text ++ '.' :: p.signature h text))

/-- The claims of a genuine token, whatever the time. -/
def claims? (p : Policy) (token : String) : Option Claims := do
  let h ← p.algorithm.hash?
  let (text, mark) ← splitLast? token.toList
  let (header, body) ← splitLast? text
  let algorithm ← (part? header).bind header?
  if algorithm = p.algorithm ∧ mark = p.signature h text then
    let payload ← (part? body).bind payload?
    if payload.iss = p.issuer then payload.toClaims? else none
  else none

end Policy

end Bearer
