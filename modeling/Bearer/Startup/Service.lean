import Bearer.Http.App
import Bearer.Log.Filter
import Bearer.Settings.Load
import Bearer.Settings.Names
import Bearer.Startup.Servers
/-! The way from settings to a service that is ready to listen. Until the settings are loaded nothing can be
reported; from then on every step reports to a log that is filtered as the settings say. -/

namespace Bearer.Startup

/-- Why the service does not come up. -/
inductive Stop
  | settings (f : Settings.LoadFault)
  | servers (u : Unconnected)
  | policy (f : Fault)
  | service (f : Fault)
  deriving DecidableEq, Repr

/-- What failed and, where there is more to say, why. A startup that has broken down says neither. -/
def Stop.chain : Stop → List String
  | settings _ => ["failed to load configuration"]
  | servers (.outage o) => ["failed to initialize infrastructure", o.message]
  | servers .brokenDown => []
  | policy f => ["invalid JWT configuration", f.message]
  | service f => ["failed to build token service", f.message]

/-- A service that only has to listen. -/
structure Ready where
  servers : Servers
  app : Http.App
  address : String

namespace Main

def event (level : Log.Level) (message : String) (fields : List (String × Json)) : Log.Event :=
  ⟨level, "tokenkeep", message, fields⟩

end Main

/-- Whether everybody could sign tokens for a service that others rely on. -/
def isExposed (s : Settings) : Bool := s.environment.requiresSecret && s.jwt.usesBuiltInSecret

def service (s : Settings) : Startup Stop Service := do
  let policy ← mapFault .policy (ofExcept s.jwt.policy)
  let ttl := Ttl.ofSeconds s.cache.ttl.toNat
  let service ← mapFault .service
    (ofExcept (Service.build ⟨policy, true, true, some (ttl, s.cache.space)⟩))
  report ⟨.debug, "tk_core::services::token::service", "Descriptor cache enabled",
    [("ttl_secs", .ofNat ttl.seconds)]⟩
  return service

def prepare (net : Network) (s : Settings) : Startup Stop Ready := do
  report (Main.event .info "Starting Tokenkeep API server"
    [("environment", .str s.environment.name)])
  if isExposed s then
    report (Main.event .warn
      "JWT_SECRET is not set; tokens are signed with the default development secret" [])
  let servers ← mapFault .servers (servers net s)
  let service ← service s
  let address := s.server.address
  report (Main.event .info ("Server will bind to: " ++ address) [])
  return ⟨servers, ⟨service, s.server.maxPayload.toNat⟩, address⟩

/-- A startup that is over: the events written, in which format, and how it went. -/
structure Ending where
  format : Settings.LogFormat
  written : List Log.Event
  result : Except Stop Ready

def start (net : Network) (v : Settings.Variables) (files : Settings.Files) : Ending :=
  match Settings.load v files with
  | .error f => ⟨.json, [], .error (.settings f)⟩
  | .ok s =>
    let asked := (v.completed files).get? Settings.logFilterName
    let filter := Log.Filter.choose asked s.logging.level
    let (r, reported) := (prepare net s).outcome
    ⟨s.logging.format, reported.filter filter.passes, r⟩

end Bearer.Startup
