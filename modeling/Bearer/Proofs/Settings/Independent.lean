import Bearer.Settings.Load
/-! What each environment variable does to the settings, whatever the others are. A variable sets one field. Those of
the database, the cache and the tokens count only where the variable that opens their section is set, and one that
opens a section puts it back to what is built in before the section's own variables are read. -/

namespace Bearer.Settings

/-- The variables that set a field. -/
inductive Variable
  | databaseUrl
  | maxConnections
  | connectTimeout
  | slowQuery
  | cacheUrl
  | cacheTtl
  | cacheKeyName
  | secret
  | accessExpiry
  | refreshExpiry
  | issuer
  | algorithm
  | host
  | port
  | workers
  | tokenStore
  | identityStore
  | cacheBackend
  | logLevel
  | logFormat
  deriving DecidableEq

namespace Variable

def all : List Variable :=
  [databaseUrl, maxConnections, connectTimeout, slowQuery, cacheUrl, cacheTtl, cacheKeyName, secret, accessExpiry,
    refreshExpiry, issuer, algorithm, host, port, workers, tokenStore, identityStore, cacheBackend, logLevel, logFormat]

def name : Variable → String
  | databaseUrl => "DATABASE_URL"
  | maxConnections => "DATABASE_MAX_CONNECTIONS"
  | connectTimeout => "DATABASE_CONNECT_TIMEOUT"
  | slowQuery => "DATABASE_SLOW_QUERY_MS"
  | cacheUrl => "REDIS_URL"
  | cacheTtl => "CACHE_TTL_SECONDS"
  | cacheKeyName => "CACHE_KEY_PREFIX"
  | secret => "JWT_SECRET"
  | accessExpiry => "JWT_ACCESS_TOKEN_EXPIRY"
  | refreshExpiry => "JWT_REFRESH_TOKEN_EXPIRY"
  | issuer => "JWT_ISSUER"
  | algorithm => "JWT_ALGORITHM"
  | host => "SERVER_HOST"
  | port => "SERVER_PORT"
  | workers => "SERVER_WORKERS"
  | tokenStore => "TOKEN_STORE"
  | identityStore => "IDENTITY_STORE"
  | cacheBackend => "CACHE_BACKEND"
  | logLevel => "LOG_LEVEL"
  | logFormat => "LOG_FORMAT"

/-- Puts a text into the field of a variable. One that does not read as a value of the field changes nothing. -/
def assign (text : String) (s : Settings) : Variable → Settings
  | databaseUrl => { s with database.url := text }
  | maxConnections => { s with
      database.maxConnections := ((Text.unsigned? 32 text).map Nat.toUInt32).getD s.database.maxConnections }
  | connectTimeout => { s with
      database.connectTimeout := ((Text.unsigned? 64 text).map Nat.toUInt64).getD s.database.connectTimeout }
  | slowQuery => { s with
      database.slowQuery := ((Text.unsigned? 64 text).map Nat.toUInt64).getD s.database.slowQuery }
  | cacheUrl => { s with cache.url := text }
  | cacheTtl => { s with cache.ttl := ((Text.unsigned? 64 text).map Nat.toUInt64).getD s.cache.ttl }
  | cacheKeyName => { s with cache.keyName := some text }
  | secret => { s with jwt.secret := text }
  | accessExpiry => { s with
      jwt.accessExpiry := ((Text.signed? 64 text).map Int64.ofInt).getD s.jwt.accessExpiry }
  | refreshExpiry => { s with
      jwt.refreshExpiry := ((Text.signed? 64 text).map Int64.ofInt).getD s.jwt.refreshExpiry }
  | issuer => { s with jwt.issuer := text }
  | algorithm => { s with jwt.algorithm := text }
  | host => { s with server.host := text }
  | port => { s with server.port := ((Text.unsigned? 16 text).map Nat.toUInt16).getD s.server.port }
  | workers => { s with server.workers := ((Text.unsigned? 64 text).map Nat.toUInt64).getD s.server.workers }
  | tokenStore => { s with
      storage.refreshTokens := (Backend.parse text).toOption.getD s.storage.refreshTokens }
  | identityStore => { s with storage.identities := (Backend.parse text).toOption.getD s.storage.identities }
  | cacheBackend => { s with storage.cache := (Backend.parse text).toOption.getD s.storage.cache }
  | logLevel => { s with logging.level := text }
  | logFormat => { s with logging.format := (LogFormat.parse text).toOption.getD s.logging.format }

/-- The variable without which another one does not count. -/
def opener? : Variable → Option Variable
  | maxConnections | connectTimeout | slowQuery => some databaseUrl
  | cacheTtl | cacheKeyName => some cacheUrl
  | accessExpiry | refreshExpiry | issuer | algorithm => some secret
  | _ => none

def counts (v : Variables) (x : Variable) : Bool := x.opener?.all fun o => (v.get? o.name).isSome

/-- The settings with the section that a variable opens, if it opens one, as it is built in. -/
def reset (s : Settings) : Variable → Settings
  | databaseUrl => { s with database := .standard }
  | cacheUrl => { s with cache := .standard }
  | secret => { s with jwt := .standard }
  | _ => s

/-- The variables that do not count without another one. -/
def members (x : Variable) : List Variable := all.filter fun y => y.opener? = some x

/-- What a variable makes of the settings, if it is set. -/
def take (v : Variables) (s : Settings) (x : Variable) : Settings :=
  match v.get? x.name with
  | some text => x.assign text s
  | none => s

/-- The settings with the section that a variable opens as the other variables of the section make it. -/
def opened (v : Variables) (x : Variable) (s : Settings) : Settings := x.members.foldl (take v) (x.reset s)

end Variable

namespace Variables

variable {α : Type} (v : Variables) (n m : String)

@[simp] theorem text_insert (text fallback : String) :
    Variables.text (v.insert n text) m fallback = if m = n then text else v.text m fallback := by
  unfold Variables.text
  rw [Table.get?_insert]
  split <;> rfl

@[simp] theorem text_erase (fallback : String) :
    Variables.text (v.erase n) m fallback = if m = n then fallback else v.text m fallback := by
  unfold Variables.text
  rw [Table.get?_erase]
  split <;> rfl

@[simp] theorem parsed_insert (text : String) (read : String → Option α) (fallback : α) :
    parsed (v.insert n text) m read fallback =
      if m = n then (read text).getD fallback else v.parsed m read fallback := by
  unfold parsed
  rw [Table.get?_insert]
  split <;> rfl

@[simp] theorem parsed_erase (read : String → Option α) (fallback : α) :
    parsed (v.erase n) m read fallback = if m = n then fallback else v.parsed m read fallback := by
  unfold parsed
  rw [Table.get?_erase]
  split <;> rfl

/-- No such variable has a say in where the service runs. -/
@[simp] theorem environment_insert (x : Variable) (text : String) :
    environment (v.insert x.name text) = v.environment := by
  unfold environment
  cases x <;> simp [Variable.name, Table.get?_insert]

@[simp] theorem environment_erase (x : Variable) : environment (v.erase x.name) = v.environment := by
  unfold environment
  cases x <;> simp [Variable.name, Table.get?_erase]

end Variables

namespace Variable

variable (v : Variables) (s : Settings)

theorem opened_databaseUrl :
    opened v databaseUrl s = { s with database := { v.database with url := Database.standard.url } } := by
  have hmembers : members databaseUrl = [maxConnections, connectTimeout, slowQuery] := rfl
  simp only [opened, hmembers, List.foldl, reset, take, name, Variables.database, Variables.word32, Variables.word64,
    Variables.parsed]
  cases v.get? "DATABASE_MAX_CONNECTIONS" <;> cases v.get? "DATABASE_CONNECT_TIMEOUT" <;>
    cases v.get? "DATABASE_SLOW_QUERY_MS" <;> rfl

theorem opened_cacheUrl :
    opened v cacheUrl s = { s with cache := { v.cache with url := Cache.standard.url } } := by
  have hmembers : members cacheUrl = [cacheTtl, cacheKeyName] := rfl
  simp only [opened, hmembers, List.foldl, reset, take, name, Variables.cache, Variables.word64, Variables.parsed]
  cases v.get? "CACHE_TTL_SECONDS" <;> cases v.get? "CACHE_KEY_PREFIX" <;> rfl

theorem opened_secret :
    opened v secret s = { s with jwt := { v.jwt with secret := Jwt.standard.secret } } := by
  have hmembers : members secret = [accessExpiry, refreshExpiry, issuer, algorithm] := rfl
  simp only [opened, hmembers, List.foldl, reset, take, name, Variables.jwt, Variables.signed64, Variables.parsed,
    Variables.text]
  cases v.get? "JWT_ACCESS_TOKEN_EXPIRY" <;> cases v.get? "JWT_REFRESH_TOKEN_EXPIRY" <;>
    cases v.get? "JWT_ISSUER" <;> cases v.get? "JWT_ALGORITHM" <;> rfl

end Variable

section

variable {v : Variables} {x : Variable} (text : String)

/-- A variable that counts sets its field and nothing else. -/
theorem ofVariables_insert_of_counts (hx : x.members = []) (hcounts : x.counts v = true) :
    ofVariables (v.insert x.name text) = x.assign text (ofVariables (v.erase x.name)) := by
  simp only [ofVariables, Variables.environment_insert, Variables.environment_erase]
  cases x <;> simp [Variable.members, Variable.all, Variable.opener?] at hx
  all_goals
    simp [Variable.counts, Variable.opener?, Variable.name] at hcounts
    simp [Variable.name, Variable.assign, Table.get?_insert, Table.get?_erase, Variables.database, Variables.cache,
      Variables.jwt, Variables.overServer, Variables.overStorage, Variables.overLogging, Variables.word32,
      Variables.word64, Variables.signed64, Variables.backend, *]

/-- One that does not count sets nothing. -/
theorem ofVariables_insert_of_not_counts (hcounts : x.counts v = false) :
    ofVariables (v.insert x.name text) = ofVariables (v.erase x.name) := by
  simp only [ofVariables, Variables.environment_insert, Variables.environment_erase]
  cases x <;> simp [Variable.counts, Variable.opener?, Variable.name] at hcounts
  all_goals
    simp [Variable.name, Table.get?_insert, Table.get?_erase, Variables.database, Variables.cache, Variables.jwt,
      Variables.overServer, Variables.overStorage, Variables.overLogging, Variables.word32, Variables.word64,
      Variables.signed64, Variables.backend, *]

/-- One that opens a section leaves nothing of what the section was before. -/
theorem ofVariables_insert_opener (hx : x.members ≠ []) :
    ofVariables (v.insert x.name text) = x.assign text (x.opened v (ofVariables (v.erase x.name))) := by
  simp only [ofVariables, Variables.environment_insert, Variables.environment_erase]
  cases x <;> simp [Variable.members, Variable.all, Variable.opener?] at hx
  all_goals
    simp [Variable.opened_databaseUrl, Variable.opened_cacheUrl, Variable.opened_secret, Variable.name, Variable.assign,
      Table.get?_insert, Table.get?_erase, Variables.database, Variables.cache, Variables.jwt, Variables.overServer,
      Variables.overStorage, Variables.overLogging, Variables.word32, Variables.word64, Variables.signed64,
      Variables.backend]

end

theorem Variables.completed_of_none {files : Files} (h : files.get? ".env" = none) (v : Variables) :
    v.completed files = v := by
  rw [completed, h]

/-- The variable sets its field, and all else is as without it. -/
def ActsAlone (v : Variables) (x : Variable) (text : String) : Prop :=
  ofVariables (v.insert x.name text) = x.assign text (ofVariables (v.erase x.name))

/-- Variables of the database, the cache and the tokens do not act alone: without the one that opens their section
they are passed over, and that one brings in what is built in instead of what the environment presets. -/
theorem not_actsAlone :
    ¬ActsAlone Table.empty .maxConnections "20" ∧
      ¬ActsAlone (Table.empty.insert "TOKENKEEP_ENV" "production") .databaseUrl "mysql://db/x" := by
  unfold ActsAlone
  decide +kernel

/-- Without a file that sets some, a variable that counts sets its field, and all else is as without it; a variable
whose section is not opened changes nothing; and one that opens a section puts it back to what is built in, lets the
section's own variables set their fields in it, and sets its own. -/
theorem variable_sets_field {files : Files} (hfiles : files.get? ".env" = none) (v : Variables) (x : Variable)
    (text : String) :
    let set := ofVariables (Variables.completed (v.insert x.name text) files)
    let unset := ofVariables (Variables.completed (v.erase x.name) files)
    (x.members = [] → x.counts v = true → set = x.assign text unset) ∧
      (x.counts v = false → set = unset) ∧
      (x.members ≠ [] → set = x.assign text (x.opened v unset)) := by
  simp only [Variables.completed_of_none hfiles]
  exact ⟨ofVariables_insert_of_counts text, ofVariables_insert_of_not_counts text, ofVariables_insert_opener text⟩

/-- With the address of a database, the number of connections counts. -/
theorem variable_sets_field_opened :
    (Table.empty : Files).get? ".env" = none ∧
      ofVariables (Variables.completed
        (Table.insert (Table.empty.insert "DATABASE_URL" "mysql://db/x") Variable.maxConnections.name "20") Table.empty) =
        Variable.assign "20" (ofVariables (Variables.completed
          (Table.erase (Table.empty.insert "DATABASE_URL" "mysql://db/x") Variable.maxConnections.name) Table.empty))
          .maxConnections :=
  ⟨rfl, (@variable_sets_field Table.empty rfl (Table.empty.insert "DATABASE_URL" "mysql://db/x")
    .maxConnections "20").1 (by decide) (by decide)⟩

end Bearer.Settings
