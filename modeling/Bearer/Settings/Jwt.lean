import Bearer.Policy
import Bearer.Settings.Format
import Bearer.Token
/-! How tokens are signed and how long they live, as it is set in seconds and by name. `Jwt.policy` takes the
settings for a policy or says what is wrong with them. -/

namespace Bearer.Settings

structure Jwt where
  secret : String
  /-- Seconds. -/
  accessExpiry : Int64
  /-- Seconds. -/
  refreshExpiry : Int64
  issuer : String
  algorithm : String
  /-- Random bytes in a refresh value. -/
  refreshBytes : UInt64
  deriving DecidableEq, Repr

namespace Jwt

/-- Everybody knows this secret. -/
def builtInSecret : String := "your-secret-key-change-in-production"

def withSecret (secret : String) : Jwt := ⟨secret, 900, 604800, "tokenkeep", "HS256", 64⟩

def standard : Jwt := withSecret builtInSecret

def usesBuiltInSecret (j : Jwt) : Bool := j.secret == builtInSecret

/-- So many units of so many seconds each. Seconds are counted in 64 bits, and where these do not hold the product,
there is none: whoever asks for it breaks down. -/
def seconds? (count : Int64) (each : Int) : Option Int64 :=
  let product := count.toInt * each
  if -9223372036854775808 ≤ product ∧ product ≤ 9223372036854775807 then some (Int64.ofInt product) else none

def withAccessMinutes? (j : Jwt) (minutes : Int64) : Option Jwt :=
  (seconds? minutes 60).map fun s => { j with accessExpiry := s }

def withRefreshDays? (j : Jwt) (days : Int64) : Option Jwt :=
  (seconds? days 86400).map fun s => { j with refreshExpiry := s }

def lifetime (seconds : Int64) (kind : TokenKind) : Except Fault Duration :=
  match Duration.ofSeconds? seconds.toInt with
  | some d => .ok d
  | none => .error (.internal
      (kind.name ++ " token expiry out of range: " ++ toString seconds.toInt ++ "s"))

def policy (j : Jwt) : Except Fault Policy := do
  match Algorithm.ofName? j.algorithm with
  | none => throw (.internal ("Unknown JWT algorithm: " ++ j.algorithm))
  | some algorithm =>
    let accessTtl ← lifetime j.accessExpiry .access
    let refreshTtl ← lifetime j.refreshExpiry .refresh
    let p : Policy := ⟨j.secret, algorithm, j.issuer, accessTtl, refreshTtl, j.refreshBytes.toNat⟩
    p.check
    return p

def toJson (j : Jwt) : Json :=
  .obj [("secret", .str j.secret), ("access_token_expiry", .ofInt j.accessExpiry.toInt),
    ("refresh_token_expiry", .ofInt j.refreshExpiry.toInt), ("issuer", .str j.issuer),
    ("algorithm", .str j.algorithm), ("refresh_token_bytes", .ofNat j.refreshBytes.toNat)]

def read? {δ : Type} (f : Format δ) (d : δ) : Option Jwt := do
  let r ← f.record? ["secret", "access_token_expiry", "refresh_token_expiry", "issuer", "algorithm",
    "refresh_token_bytes"] d
  let secret ← Format.required r "secret" f.text?
  let accessExpiry ← Format.required r "access_token_expiry" f.signed?
  let refreshExpiry ← Format.required r "refresh_token_expiry" f.signed?
  let issuer ← Format.required r "issuer" f.text?
  let algorithm ← Format.defaulted r "algorithm" "HS256" f.text?
  let refreshBytes ← Format.defaulted r "refresh_token_bytes" 64 (f.unsigned? 64)
  some ⟨secret, Int64.ofInt accessExpiry, Int64.ofInt refreshExpiry, issuer, algorithm,
    refreshBytes.toUInt64⟩

end Jwt

end Bearer.Settings
