import Bearer.Settings.Cache
import Bearer.Settings.Database
import Bearer.Settings.Environment
import Bearer.Settings.Jwt
import Bearer.Settings.Server
import Bearer.Settings.Storage
/-! All settings of the service, what they are where nothing else is said, and as a document. -/

namespace Bearer

structure Settings where
  environment : Settings.Environment
  server : Settings.Server
  database : Settings.Database
  jwt : Settings.Jwt
  cache : Settings.Cache
  storage : Settings.Storage
  logging : Settings.Logging
  deriving DecidableEq, Repr

namespace Settings

def standard : Settings :=
  ⟨.development, .standard, .standard, .standard, .standard, .inMemory, .preset .development⟩

/-- Everything in memory, so that the service runs alone. -/
def development : Settings :=
  { standard with database := .ofUrl "mysql://localhost:3306/tokenkeep_dev" }

/-- What a deployed service uses: servers of its own, and a secret that is given to it. -/
def production : Settings :=
  { environment := .production
    server := .ofHost "0.0.0.0" 8080
    database := (Database.ofUrl "mysql://prod-db:3306/tokenkeep").withMaxConnections 50
    jwt := .withSecret "use-env-variable"
    cache := { Cache.ofUrl "redis://prod-cache:6379" with keyName := some "tokenkeep" }
    storage := .persistent
    logging := .preset .production }

def preset : Environment → Settings
  | .development => development
  | .staging => { production with environment := .staging, logging := .preset .staging }
  | .production => production

/-- The section around the signing settings. -/
def authJson (j : Jwt) : Json := .obj [("jwt", j.toJson)]

def readAuth? {δ : Type} (f : Format δ) (d : δ) : Option Jwt := do
  let r ← f.record? ["jwt"] d
  Format.required r "jwt" (Jwt.read? f)

def toJson (s : Settings) : Json :=
  .obj [("environment", .str s.environment.name), ("server", s.server.toJson),
    ("database", s.database.toJson), ("auth", authJson s.jwt), ("cache", s.cache.toJson),
    ("storage", s.storage.toJson), ("logging", s.logging.toJson)]

def read? {δ : Type} (f : Format δ) (d : δ) : Option Settings := do
  let r ← f.record? ["environment", "server", "database", "auth", "cache", "storage", "logging"] d
  let environment ← Format.required r "environment" (Environment.read? f)
  let server ← Format.required r "server" (Server.read? f)
  let database ← Format.required r "database" (Database.read? f)
  let jwt ← Format.required r "auth" (readAuth? f)
  let cache ← Format.required r "cache" (Cache.read? f)
  let storage ← Format.defaulted r "storage" .inMemory (Storage.read? f)
  let logging ← Format.defaulted r "logging" (.preset .development) (Logging.read? f)
  some ⟨environment, server, database, jwt, cache, storage, logging⟩

end Settings

end Bearer
