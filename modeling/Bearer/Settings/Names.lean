import Bearer.Settings.Document
/-! The names of all environment variables that can change a setting or the log. -/

namespace Bearer.Settings

mutual

/-- The paths to the leaves of a document, with names in capitals and two underscores between them. -/
def leafNames (path : String) : Json → List String
  | .obj members => memberNames path members
  | _ => [path]

def memberNames (path : String) : List (String × Json) → List String
  | [] => []
  | (name, j) :: rest => leafNames (path ++ "__" ++ name.toUpper) j ++ memberNames path rest

end

def sectionNames : List String :=
  ["TOKENKEEP_ENV", "APP_ENV", "DATABASE_URL", "DATABASE_MAX_CONNECTIONS", "DATABASE_CONNECT_TIMEOUT",
    "DATABASE_SLOW_QUERY_MS", "REDIS_URL", "CACHE_TTL_SECONDS", "CACHE_KEY_PREFIX", "JWT_SECRET",
    "JWT_ACCESS_TOKEN_EXPIRY", "JWT_REFRESH_TOKEN_EXPIRY", "JWT_ISSUER", "JWT_ALGORITHM", "SERVER_HOST",
    "SERVER_PORT", "SERVER_WORKERS", "TOKEN_STORE", "IDENTITY_STORE", "CACHE_BACKEND", "LOG_LEVEL",
    "LOG_FORMAT"]

def logFilterName : String := "RUST_LOG"

def variableNames : List String :=
  sectionNames ++ leafNames "TOKENKEEP" standard.toJson ++ [logFilterName]

end Bearer.Settings
