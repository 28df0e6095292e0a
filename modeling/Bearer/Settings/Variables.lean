import Bearer.Settings.Document
import Bearer.Store.Table
import Bearer.Text.Number
/-! Settings from environment variables. The environment's preset comes first; the address of a server or the
secret, where it is set, replaces the whole section; and the variables of the other sections replace single
settings. A number that does not read is as good as none. -/

namespace Bearer.Settings

abbrev Variables := Table String String

namespace Variables

/-- The value of a variable, if it is set and can be read. -/
def parsed {α : Type} (v : Variables) (name : String) (read : String → Option α) (fallback : α) : α :=
  ((v.get? name).bind read).getD fallback

def text (v : Variables) (name fallback : String) : String := (v.get? name).getD fallback

def word32 (v : Variables) (name : String) (fallback : UInt32) : UInt32 :=
  v.parsed name (fun s => (Text.unsigned? 32 s).map Nat.toUInt32) fallback

def word64 (v : Variables) (name : String) (fallback : UInt64) : UInt64 :=
  v.parsed name (fun s => (Text.unsigned? 64 s).map Nat.toUInt64) fallback

def signed64 (v : Variables) (name : String) (fallback : Int64) : Int64 :=
  v.parsed name (fun s => (Text.signed? 64 s).map Int64.ofInt) fallback

def backend (v : Variables) (name : String) (fallback : Backend) : Backend :=
  v.parsed name (fun s => (Backend.parse s).toOption) fallback

/-- The general variable counts only where the service's own is not set. -/
def environment (v : Variables) : Environment :=
  let name := match v.get? "TOKENKEEP_ENV" with
    | some s => some s
    | none => v.get? "APP_ENV"
  (name.bind fun s => (Environment.parse s).toOption).getD .development

def database (v : Variables) : Database :=
  let d := Database.standard
  { d with
    url := v.text "DATABASE_URL" d.url
    maxConnections := v.word32 "DATABASE_MAX_CONNECTIONS" d.maxConnections
    connectTimeout := v.word64 "DATABASE_CONNECT_TIMEOUT" d.connectTimeout
    slowQuery := v.word64 "DATABASE_SLOW_QUERY_MS" d.slowQuery }

def cache (v : Variables) : Cache :=
  let c := Cache.standard
  { c with
    url := v.text "REDIS_URL" c.url
    ttl := v.word64 "CACHE_TTL_SECONDS" c.ttl
    keyName := v.get? "CACHE_KEY_PREFIX" }

def jwt (v : Variables) : Jwt :=
  let j := Jwt.standard
  { j with
    secret := v.text "JWT_SECRET" j.secret
    accessExpiry := v.signed64 "JWT_ACCESS_TOKEN_EXPIRY" j.accessExpiry
    refreshExpiry := v.signed64 "JWT_REFRESH_TOKEN_EXPIRY" j.refreshExpiry
    issuer := v.text "JWT_ISSUER" j.issuer
    algorithm := v.text "JWT_ALGORITHM" j.algorithm }

def overServer (v : Variables) (s : Server) : Server :=
  { s with
    host := v.text "SERVER_HOST" s.host
    port := v.parsed "SERVER_PORT" (fun t => (Text.unsigned? 16 t).map Nat.toUInt16) s.port
    workers := v.word64 "SERVER_WORKERS" s.workers }

def overStorage (v : Variables) (s : Storage) : Storage where
  refreshTokens := v.backend "TOKEN_STORE" s.refreshTokens
  identities := v.backend "IDENTITY_STORE" s.identities
  cache := v.backend "CACHE_BACKEND" s.cache

def overLogging (v : Variables) (l : Logging) : Logging :=
  { l with
    level := v.text "LOG_LEVEL" l.level
    format := v.parsed "LOG_FORMAT" (fun s => (LogFormat.parse s).toOption) l.format }

end Variables

def ofVariables (v : Variables) : Settings :=
  let s := preset v.environment
  { s with
    database := if (v.get? "DATABASE_URL").isSome then v.database else s.database
    cache := if (v.get? "REDIS_URL").isSome then v.cache else s.cache
    jwt := if (v.get? "JWT_SECRET").isSome then v.jwt else s.jwt
    server := v.overServer s.server
    storage := v.overStorage s.storage
    logging := v.overLogging s.logging }

end Bearer.Settings
