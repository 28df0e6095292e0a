import Bearer.Fault
import Bearer.Signing.Algorithm
import Bearer.Time.Printed
/-! What a token service is told to do: how to sign, in whose name, how long tokens live and how long a
refresh value is. `Policy.check` refuses what could not work or would not be safe. -/

namespace Bearer

structure Policy where
  secret : String
  algorithm : Algorithm
  issuer : String
  accessTtl : Duration
  refreshTtl : Duration
  /-- Random bytes in a refresh value. -/
  refreshBytes : Nat

namespace Policy

/-- For trying things out: tokens of a quarter of an hour and of a week. -/
def development : Policy where
  secret := "development-secret-please-change-in-production"
  algorithm := .hs256
  issuer := "tokenkeep"
  accessTtl := ⟨900 * 1000000000, by omega, by omega⟩
  refreshTtl := ⟨604800 * 1000000000, by omega, by omega⟩
  refreshBytes := 64

/-- The longest lifetime, 3650 days. -/
def longest : Duration := ⟨3650 * 86400 * 1000000000, by omega, by omega⟩

/-- Shorter refresh values could be guessed. -/
def fewestBytes : Nat := 16

inductive Defect
  | emptySecret
  | algorithmWithoutSecret
  | emptyIssuer
  | accessTtlNotPositive
  | refreshTtlNotPositive
  | ttlTooLong
  | tooFewBytes
  deriving DecidableEq, Repr

def Defect.message : Defect → String
  | emptySecret => "JWT secret must not be empty"
  | algorithmWithoutSecret => "only HMAC algorithms (HS256, HS384, HS512) are supported"
  | emptyIssuer => "issuer must not be empty"
  | accessTtlNotPositive => "access token TTL must be positive"
  | refreshTtlNotPositive => "refresh token TTL must be positive"
  | ttlTooLong => "token TTLs must not exceed 3650 days"
  | tooFewBytes => "refresh tokens need at least 16 random bytes"

def Defect.fault (d : Defect) : Fault := .internal ("Invalid token configuration: " ++ d.message)

/-- The first defect, in this order. -/
def defect? (p : Policy) : Option Defect :=
  if p.secret = "" then some .emptySecret
  else if p.algorithm.hash? = none then some .algorithmWithoutSecret
  else if p.issuer = "" then some .emptyIssuer
  else if p.accessTtl ≤ Duration.zero then some .accessTtlNotPositive
  else if p.refreshTtl ≤ Duration.zero then some .refreshTtlNotPositive
  else if longest < p.accessTtl ∨ longest < p.refreshTtl then some .ttlTooLong
  else if p.refreshBytes < fewestBytes then some .tooFewBytes
  else none

def check (p : Policy) : Except Fault Unit :=
  match p.defect? with
  | some d => .error d.fault
  | none => .ok ()

end Policy

end Bearer
