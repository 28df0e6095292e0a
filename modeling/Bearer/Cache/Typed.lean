import Bearer.Json.Reader
import Bearer.Json.Writer
import Bearer.Service.Request
import Bearer.Token.Json
/-! Values in a cache of texts, all kept for the same time and under keys with a common name in front. The
lenient operations take every failure for a miss, the strict ones report it. -/

namespace Bearer

/-- How a value becomes text; some values have none. -/
structure Codec (α : Type) where
  encode : α → Option String
  decode : String → Option α

structure TypedCache (α : Type) where
  codec : Codec α
  ttl : Ttl
  /-- The name in front of the keys, the empty one for none. -/
  space : List Char

/-- Colons at the end of a name count for nothing. -/
def spaceOf (name : String) : List Char := (name.toList.reverse.dropWhile (· == ':')).reverse

/-- The parts of a key with colons between them. -/
def joinKey (parts : List String) : String := ":".intercalate parts

namespace TypedCache

variable {α : Type}

def fullKey (c : TypedCache α) (key : String) : String :=
  if c.space.isEmpty then key else String.ofList (c.space ++ ':' :: key.toList)

def getOrFail (c : TypedCache α) (key : String) : Action α := do
  let full := c.fullKey key
  match ← Action.fetch full with
  | none => throw (.notFound ("cache entry " ++ full))
  | some text =>
    match c.codec.decode text with
    | some v => return v
    | none => throw (.repository ("Failed to decode cache entry " ++ full ++ ": "))

def get (c : TypedCache α) (key : String) : Call (Option α) := do
  match ← (c.getOrFail key).run with
  | .ok v => pure (some v)
  | .error _ => pure none

def setOrFail (c : TypedCache α) (key : String) (value : α) : Action Unit := do
  let full := c.fullKey key
  match c.codec.encode value with
  | none => throw (.repository ("Failed to encode cache entry " ++ full ++ ": "))
  | some text => Action.remember full text c.ttl

def set (c : TypedCache α) (key : String) (value : α) : Call Unit := do
  let _ ← (c.setOrFail key value).run

end TypedCache

namespace Codec

def ofJson {α : Type} (write : α → Json) (read : Json → Option α) : Codec α where
  encode v := some (write v).write
  decode text := (Json.parse? text).bind read

end Codec

namespace Descriptor

def codec : Codec Descriptor := Codec.ofJson toJson ofJson?

def cacheKey (user : Uuid) : String := joinKey [user.text, "descriptor"]

end Descriptor

/-- Looks a user up in the cache, and on a miss where the answer comes from. What is found there is cached
if it can be, and returned in any case. -/
def TypedCache.lookup (c : TypedCache Descriptor) (user : Uuid) : Action Descriptor := do
  let key := Descriptor.cacheKey user
  match ← ExceptT.lift (c.get key) with
  | some d => return d
  | none =>
    let d ← Action.resolve user
    ExceptT.lift (c.set key d)
    return d

end Bearer
