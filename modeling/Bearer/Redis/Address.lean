import Bearer.Net.Endpoint
import Bearer.Net.Url
/-! Where a Redis server is, from its URL, and the URL as it may be logged. -/

namespace Bearer.Redis

inductive AddressFault
  | malformed
  | noHost
  | noPath
  /-- Connections are not encrypted. -/
  | encrypted
  | badDatabase
  | badUser
  | badPassword
  deriving DecidableEq, Repr

def AddressFault.message : AddressFault → String
  | malformed => "Redis URL did not parse- InvalidClientConfig"
  | noHost => "Missing hostname- InvalidClientConfig"
  | noPath => "Missing path- InvalidClientConfig"
  | encrypted => "can't connect with TLS, the feature is not enabled- InvalidClientConfig"
  | badDatabase => "Invalid database number- InvalidClientConfig"
  | badUser => "Username is not valid UTF-8 string- InvalidClientConfig"
  | badPassword => "Password is not valid UTF-8 string- InvalidClientConfig"

def port : Nat := 6379

/-- The path without slashes at its ends. -/
def databaseText (path : List Char) : List Char :=
  ((path.dropWhile (· == '/')).reverse.dropWhile (· == '/')).reverse

/-- A server behind a host and a port; the path is the number of a database. -/
def tcpEndpoint (u : Url) : Except AddressFault Endpoint := do
  let database := databaseText u.path
  match u.host with
  | none => throw .noHost
  | some host =>
    if u.scheme = "rediss" then throw .encrypted
    if !database.isEmpty && (Text.signed? 64 (String.ofList database)).isNone then throw .badDatabase
    if !u.hasUserText then throw .badUser
    if !u.hasPasswordText then throw .badPassword
    return .tcp host.text (u.port.getD port)

/-- A server behind a socket of this machine; the number of a database is in the query, where the last one
counts. -/
def socketEndpoint (u : Url) : Except AddressFault Endpoint := do
  let isHere := u.host.all (· == .name "localhost".toList)
  if !isHere || u.path.head? ≠ some '/' then throw .noPath
  match u.pairs.reverse.lookup "db" with
  | some n => if (Text.signed? 64 n).isNone then throw .badDatabase
  | none => pure ()
  return .socket (Percent.bytes u.path)

def endpoint (url : String) : Except AddressFault Endpoint :=
  match Url.parse? url with
  | none => .error .malformed
  | some u =>
    if u.scheme = "redis" ∨ u.scheme = "rediss" then tcpEndpoint u
    else if u.scheme = "unix" ∨ u.scheme = "redis+unix" then socketEndpoint u
    else .error .malformed

/-- Hides what stands between the scheme and the first at sign. -/
def maskedUrl (url : String) : String :=
  match Text.splitFirst? ['@'] url.toList, Text.splitFirst? "://".toList url.toList with
  | some (_, host), some (scheme, _) =>
    String.ofList (scheme ++ "://".toList ++ "****@".toList ++ host)
  | _, _ => url

end Bearer.Redis
