import Bearer.Digest.Hmac
/-! The signature algorithms with a registered name. The service signs with a shared secret, so it can
use only those that have a hash function here. -/

namespace Bearer

inductive Algorithm
  | hs256
  | hs384
  | hs512
  | es256
  | es384
  | rs256
  | rs384
  | rs512
  | ps256
  | ps384
  | ps512
  | edDsa
  deriving DecidableEq, Repr

namespace Algorithm

def name : Algorithm → String
  | hs256 => "HS256"
  | hs384 => "HS384"
  | hs512 => "HS512"
  | es256 => "ES256"
  | es384 => "ES384"
  | rs256 => "RS256"
  | rs384 => "RS384"
  | rs512 => "RS512"
  | ps256 => "PS256"
  | ps384 => "PS384"
  | ps512 => "PS512"
  | edDsa => "EdDSA"

def all : List Algorithm :=
  [hs256, hs384, hs512, es256, es384, rs256, rs384, rs512, ps256, ps384, ps512, edDsa]

def ofName? (s : String) : Option Algorithm := all.find? fun a => a.name == s

theorem ofName?_name (a : Algorithm) : ofName? a.name = some a := by cases a <;> rfl

/-- The hash that the algorithm keys with a shared secret. -/
def hash? : Algorithm → Option Hash
  | hs256 => some .sha256
  | hs384 => some .sha384
  | hs512 => some .sha512
  | _ => none

end Algorithm

end Bearer
