import Bearer.Digest.Sha2
import Bearer.Text.Utf8
import Bearer.Token
/-! Refresh tokens and users in a MySQL database. A row is found by the digest of a token's value, so that who
reads the database learns no value. Each operation is one statement; what the server makes of it is given,
and the operation says what follows from that. -/

namespace Bearer.Mysql

/-- How a statement ends. -/
inductive Outcome (α : Type)
  | done (a : α)
  /-- There is a row with that key. -/
  | duplicate
  /-- The server cannot be asked, or fails. -/
  | failed

/-- A refresh token without its value. -/
structure Row where
  id : Uuid
  user : Uuid
  issuedAt : Instant
  expiresAt : Instant
  revoked : Bool
  deriving DecidableEq

/-- What the server makes of each statement. -/
structure Server where
  find : String → Outcome (Option Row)
  insert : String → Row → Outcome Unit
  /-- Revokes the row that is not revoked yet; the number of rows changed. -/
  revoke : String → Outcome Nat
  userName : Uuid → Outcome (Option String)

/-- Nothing answers. -/
def Server.down : Server := ⟨fun _ => .failed, fun _ _ => .failed, fun _ => .failed, fun _ => .failed⟩

/-- The key of a value's row. -/
def digest (value : String) : String := Hex.encode (Hash.sha256.digest (Utf8.bytes value))

def Row.ofToken (t : Token) : Row := ⟨t.id, t.user, t.issuedAt, t.expiresAt, t.revoked⟩

def Row.token (r : Row) (value : String) : Token :=
  ⟨r.id, r.user, value, .refresh, r.issuedAt, r.expiresAt, r.revoked⟩

namespace Server

def get (s : Server) (value : String) : Except Fault Token :=
  match s.find (digest value) with
  | .done (some r) => .ok (r.token value)
  | .done none => .error (.notFound "refresh token")
  | _ => .error (.repository "Database query failed")

/-- Rows do not say what kind of token they are, so only refresh tokens may become rows. -/
def add (s : Server) (t : Token) : Except Fault Unit :=
  if t.kind ≠ .refresh then
    .error (.validation ("Cannot store " ++ t.kind.name ++ " token as a refresh token"))
  else
    match s.insert (digest t.value) (Row.ofToken t) with
    | .done () => .ok ()
    | .duplicate => .error (.repository "Refresh token value already stored")
    | .failed => .error (.repository "Failed to store refresh token")

def tryRevoke (s : Server) (value : String) : Except Fault Bool :=
  match s.revoke (digest value) with
  | .done changed => .ok (changed == 1)
  | _ => .error (.repository "Failed to revoke refresh token")

def resolve (s : Server) (user : Uuid) : Except Fault Descriptor :=
  match s.userName user with
  | .done (some name) => .ok ⟨user, name⟩
  | .done none => .error (.notFound ("user " ++ user.text))
  | _ => .error (.repository "Database query failed")

end Server

/-- The connections to the server. -/
structure Pool where
  connections : UInt32
  idle : UInt64
  most : UInt32
  deriving DecidableEq, Repr

def Pool.text (p : Pool) : String :=
  "Pool Stats: " ++ toString p.connections.toNat ++ "/" ++ toString p.most.toNat ++ " connections ("
    ++ toString p.idle.toNat ++ " idle)"

end Bearer.Mysql
