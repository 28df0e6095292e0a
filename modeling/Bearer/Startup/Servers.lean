import Bearer.Mysql.Address
import Bearer.Outage
import Bearer.Redis.Address
import Bearer.Redis.Retry
import Bearer.Settings.Document
import Bearer.Startup.Report
/-! Connecting to the servers that the settings name, and which servers are needed at all. A server is asked
for only where something is to be kept on it. -/

namespace Bearer.Startup

/-- Why the servers are not connected. -/
inductive Unconnected
  | outage (o : Outage)
  /-- A client has broken down between two attempts, and with it the startup. -/
  | brokenDown
  deriving DecidableEq, Repr

namespace Mysql

def event (level : Log.Level) (message : String) (fields : List (String × Json)) : Log.Event :=
  ⟨level, "tk_infra::database::connection", message, fields⟩

/-- Where something refuses connections it may still be starting, so it is asked until time is up. -/
def failure (d : Settings.Database) (r : Refusal) : String :=
  if d.connectTimeout = 0 ∨ r = .refused then "pool timed out while waiting for an open connection"
  else "error communicating with database: " ++ r.message

def connect (net : Network) (d : Settings.Database) : Startup Outage Unit := do
  report (event .info "Creating database connection pool"
    [("url", .str d.redactedUrl), ("max_connections", .ofNat d.maxConnections.toNat)])
  match Mysql.endpoint? d.url with
  | none => throw (.config "Invalid database URL")
  | some e =>
    match net e with
    | some r =>
      report (event .error ("Failed to create database pool: " ++ failure d r) [])
      throw .database
    | none => report (event .info "Database connection pool created successfully" [])

end Mysql

namespace Redis

def event (level : Log.Level) (message : String) : Log.Event :=
  ⟨level, "tk_infra::cache::redis_client", message, []⟩

/-- The number of the last attempt to connect, how it failed, and what was reported. -/
structure Dialing where
  attempts : UInt32
  refusal : Option Refusal
  reported : List Log.Event

namespace Dialing

def say (d : Dialing) (e : Log.Event) : Dialing := { d with reported := d.reported ++ [e] }

def cause (d : Dialing) : String := (d.refusal.map Refusal.message).getD ""

def attempt (net : Network) (e : Endpoint) (n : UInt32) (d : Dialing) : Except Refusal Unit × Dialing :=
  let d := { d with attempts := n }.say
    (event .debug ("Attempting to connect to Redis (attempt " ++ toString n.toNat ++ ")"))
  match net e with
  | some r => (.error r, { d with refusal := some r })
  | none => (.ok (), d)

def pause (most n : UInt32) (wait : UInt64) (d : Dialing) : Dialing :=
  d.say (event .warn ("Failed to connect to Redis (attempt " ++ toString n.toNat ++ "/"
    ++ toString most.toNat ++ "): " ++ d.cause ++ ". Retrying in " ++ toString wait.toNat ++ "ms..."))

end Dialing

def connect (net : Network) (c : Settings.Cache) : Startup Unconnected Unit := do
  report (event .info ("Creating Redis client with URL: " ++ Redis.maskedUrl c.url))
  match Redis.endpoint c.url with
  | .error f =>
    report (event .error ("Failed to parse Redis URL: " ++ f.message))
    throw (.outage (.config "Invalid Redis URL"))
  | .ok e =>
    let (r, d) := Retry.connect (Dialing.attempt net e) (Dialing.pause c.maxRetries) c.maxRetries c.retryDelay
      ⟨0, none, ← get⟩
    set d.reported
    match r with
    | none => throw .brokenDown
    | some (.error _) =>
      report (event .error ("Failed to connect to Redis after " ++ toString d.attempts.toNat
        ++ " attempts: " ++ d.cause))
      throw (.outage .cache)
    | some (.ok ()) => report (event .info "Redis client created successfully")

end Redis

/-- What is kept where, and which servers are connected for it. -/
structure Servers where
  storage : Settings.Storage
  database : Bool
  redis : Bool
  deriving DecidableEq, Repr

def unsupported (b : Settings.Backend) (role : String) : Unconnected :=
  .outage (.config (b.title ++ " cannot back the " ++ role))

def event (level : Log.Level) (message : String) (fields : List (String × Json)) : Log.Event :=
  ⟨level, "tk_infra", message, fields⟩

def servers (net : Network) (s : Settings) : Startup Unconnected Servers := do
  let plan := s.storage
  report (event .info "Initializing infrastructure"
    [("refresh_tokens", .str plan.refreshTokens.title), ("identities", .str plan.identities.title),
      ("cache", .str plan.cache.title)])
  if plan.needsDatabase then mapFault .outage (Mysql.connect net s.database)
  if plan.refreshTokens = .redis then throw (unsupported .redis "refresh token store")
  match plan.identities with
  | .memory => report (event .warn
      "In-memory identity store starts empty; introspection will not resolve users" [])
  | .mysql => pure ()
  | .redis => throw (unsupported .redis "identity resolver")
  match plan.cache with
  | .memory => pure ()
  | .redis => Redis.connect net s.cache
  | .mysql => throw (unsupported .mysql "descriptor cache")
  report (event .info "Infrastructure initialized" [])
  return ⟨plan, plan.needsDatabase, plan.cache = .redis⟩

end Bearer.Startup
