import Bearer.Settings.Format
import Bearer.Text.Case
/-! Which server, if any, keeps what: the refresh tokens, the users, the cached descriptors. -/

namespace Bearer.Settings

inductive Backend
  /-- The process itself; lost when it ends. -/
  | memory
  | mysql
  | redis
  deriving DecidableEq, Repr

namespace Backend

def name : Backend → String
  | memory => "memory"
  | mysql => "mysql"
  | redis => "redis"

def ofName? : String → Option Backend
  | "memory" => some memory
  | "mysql" => some mysql
  | "redis" => some redis
  | _ => none

theorem ofName?_name (b : Backend) : ofName? b.name = some b := by cases b <;> rfl

/-- The name as messages and the log show it. -/
def title : Backend → String
  | memory => "Memory"
  | mysql => "MySql"
  | redis => "Redis"

/-- Reads a name in any case. -/
def parse (s : String) : Except String Backend :=
  match Text.lower s with
  | "memory" | "mem" => .ok memory
  | "mysql" => .ok mysql
  | "redis" => .ok redis
  | _ => .error ("Invalid storage backend: " ++ s)

def read? {δ : Type} (f : Format δ) (d : δ) : Option Backend := (f.caseName? d).bind ofName?

end Backend

structure Storage where
  refreshTokens : Backend
  identities : Backend
  cache : Backend
  deriving DecidableEq, Repr

namespace Storage

def inMemory : Storage := ⟨.memory, .memory, .memory⟩

def persistent : Storage := ⟨.mysql, .mysql, .redis⟩

def needsDatabase (s : Storage) : Bool := s.refreshTokens == .mysql || s.identities == .mysql

def toJson (s : Storage) : Json :=
  .obj [("refresh_tokens", .str s.refreshTokens.name), ("identities", .str s.identities.name),
    ("cache", .str s.cache.name)]

def read? {δ : Type} (f : Format δ) (d : δ) : Option Storage := do
  let r ← f.record? ["refresh_tokens", "identities", "cache"] d
  let refreshTokens ← Format.required r "refresh_tokens" (Backend.read? f)
  let identities ← Format.required r "identities" (Backend.read? f)
  let cache ← Format.required r "cache" (Backend.read? f)
  some ⟨refreshTokens, identities, cache⟩

end Storage

end Bearer.Settings
