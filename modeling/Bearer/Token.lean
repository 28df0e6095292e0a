import Bearer.Fault
import Bearer.Time.Printed
import Bearer.Uuid
/-! Credentials. An access token is signed and short-lived, a refresh token is a stored value that can be
exchanged once for a new pair. -/

namespace Bearer

inductive TokenKind
  | access
  | refresh
  deriving DecidableEq, Repr

def TokenKind.name : TokenKind → String
  | access => "access"
  | refresh => "refresh"

structure Token where
  id : Uuid
  user : Uuid
  value : String
  kind : TokenKind
  issuedAt : Instant
  expiresAt : Instant
  revoked : Bool
  deriving DecidableEq

namespace Token

/-- A token that nobody has used, provided that it lives for some time. -/
def create (id user : Uuid) (value : String) (kind : TokenKind) (issuedAt expiresAt : Instant) :
    Except Fault Token :=
  if expiresAt ≤ issuedAt then
    .error (.validation (kind.name ++ " token must expire after it is issued"))
  else .ok ⟨id, user, value, kind, issuedAt, expiresAt, false⟩

theorem create_eq_ok {id user : Uuid} {value : String} {kind : TokenKind} {issuedAt expiresAt : Instant} {t : Token} :
    create id user value kind issuedAt expiresAt = .ok t ↔
      issuedAt < expiresAt ∧ t = ⟨id, user, value, kind, issuedAt, expiresAt, false⟩ := by
  unfold create
  split
  · next h => exact iff_of_false (by simp) fun hlives => Int.not_le.2 hlives.1 h
  · next h => simp [show issuedAt < expiresAt from Int.not_le.1 h, eq_comm]

/-- From its expiry on a token is expired. -/
def isExpired (t : Token) (now : Instant) : Bool := decide (t.expiresAt ≤ now)

theorem isExpired_mono {t : Token} {now later : Instant} (h : t.isExpired now = true) (hle : now ≤ later) :
    t.isExpired later = true :=
  decide_eq_true (Int.le_trans (of_decide_eq_true h : t.expiresAt ≤ now) hle)

def isUsable (t : Token) (now : Instant) : Bool := !t.isExpired now && !t.revoked

def revoke (t : Token) : Token := { t with revoked := true }

@[simp] theorem revoke_revoke (t : Token) : t.revoke.revoke = t.revoke := rfl

theorem isUsable_eq_true {t : Token} {now : Instant} :
    t.isUsable now = true ↔ t.isExpired now = false ∧ t.revoked = false := by
  simp [isUsable]

theorem isUsable_eq_false {t : Token} {now : Instant} :
    t.isUsable now = false ↔ t.isExpired now = true ∨ t.revoked = true := by
  simp only [isUsable, Bool.and_eq_false_iff, Bool.not_eq_false']

/-- The time left, nothing once the token is expired. -/
def timeLeft (t : Token) (now : Instant) : Duration :=
  if now < t.expiresAt then t.expiresAt.since now else Duration.zero

/-- Diagnostics never show the credential itself. -/
def dump (t : Token) : String :=
  Dump.record "Token"
    [("token_id", t.id.text), ("user_id", t.user.text), ("value", Dump.quoted "<redacted>"),
      ("token_type", match t.kind with
        | .access => "Access"
        | .refresh => "Refresh"),
      ("issued_at", t.issuedAt.stamp), ("expires_at", t.expiresAt.stamp),
      ("revoked", Dump.bool t.revoked)]

end Token

/-- One token of each kind, made in the same instant for the same user. -/
structure TokenPair where
  access : Token
  refresh : Token
  deriving DecidableEq

/-- What a caller is handed: whose tokens they are, and the two values. -/
structure Grant where
  user : Uuid
  access : String
  refresh : String
  deriving DecidableEq

def TokenPair.dump (p : TokenPair) : String :=
  Dump.record "TokenPair" [("access", p.access.dump), ("refresh", p.refresh.dump)]

def TokenPair.grant (p : TokenPair) : Grant := ⟨p.access.user, p.access.value, p.refresh.value⟩

def Grant.dump (g : Grant) : String :=
  Dump.record "AuthTokens"
    [("user_id", g.user.text), ("access_token", Dump.quoted "<redacted>"),
      ("refresh_token", Dump.quoted "<redacted>")]

/-- What is known of a user. -/
structure Descriptor where
  user : Uuid
  name : String
  deriving DecidableEq

end Bearer
