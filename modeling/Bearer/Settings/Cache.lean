import Bearer.Settings.Format
/-! The Redis server behind the cache, how often to try it, and how long entries are kept. -/

namespace Bearer.Settings

structure Cache where
  url : String
  /-- Attempts before giving up. -/
  maxRetries : UInt32
  /-- Milliseconds before the second attempt. -/
  retryDelay : UInt64
  /-- Seconds for which an entry is kept. -/
  ttl : UInt64
  /-- The name in front of all keys. -/
  keyName : Option String
  deriving DecidableEq, Repr

namespace Cache

def ofUrl (url : String) : Cache := ⟨url, 3, 100, 300, none⟩

def standard : Cache := ofUrl "redis://localhost:6379"

def space (c : Cache) : String := c.keyName.getD ""

def toJson (c : Cache) : Json :=
  .obj [("url", .str c.url), ("max_retries", .ofNat c.maxRetries.toNat),
    ("retry_delay_ms", .ofNat c.retryDelay.toNat), ("default_ttl", .ofNat c.ttl.toNat),
    ("key_prefix", match c.keyName with
      | some s => .str s
      | none => .null)]

def read? {δ : Type} (f : Format δ) (d : δ) : Option Cache := do
  let r ← f.record? ["url", "max_retries", "retry_delay_ms", "default_ttl", "key_prefix"] d
  let url ← Format.required r "url" f.text?
  let maxRetries ← Format.defaulted r "max_retries" 3 (f.unsigned? 32)
  let retryDelay ← Format.defaulted r "retry_delay_ms" 100 (f.unsigned? 64)
  let ttl ← Format.defaulted r "default_ttl" 300 (f.unsigned? 64)
  let keyName ← Format.defaulted r "key_prefix" none (f.nullable f.text?)
  some ⟨url, maxRetries.toUInt32, retryDelay.toUInt64, ttl.toUInt64, keyName⟩

end Cache

end Bearer.Settings
