import Bearer.Redis.Client
import Bearer.Service.Generators
import Bearer.Service.Introspect
import Bearer.Store.Directory
import Bearer.Store.Refresh
/-! Surroundings that live in one process: a clock that is set by hand, a store and a directory in memory, a
cache in memory or on a Redis server, and generators that count. They keep a record of what they were asked,
and single answers can be made to fail beforehand. -/

namespace Bearer

/-- Those who are asked and can fail. -/
inductive Collaborator
  | storeGet
  | storeAdd
  | storeRevoke
  | resolve
  | cacheGet
  | cacheSet
  deriving DecidableEq, Repr

/-- What is to go wrong with one answer. -/
inductive Mishap
  | fails (fault : Fault)
  /-- Another caller was faster. Only the revocation of a token can be lost. -/
  | lost
  deriving DecidableEq, Repr

inductive CacheHome
  | shelf (s : Shelf)
  | redis (settings : Redis.Settings) (link : Redis.Link)

structure Surroundings where
  now : Instant
  store : RefreshStore
  directory : Directory
  cache : CacheHome
  /-- Identifiers are numbered from 1. -/
  ids : Nat
  /-- Refresh values to give out before the numbered ones. -/
  values : List String
  numbered : Nat
  requestIds : Nat
  mishaps : List (Collaborator × Mishap)
  asked : List Request
  /-- A client has broken down under somebody who asked it. Nobody sees what that one came to. -/
  brokenDown : Bool

namespace Surroundings

def start (now : Instant) (users : List Descriptor) (values : List String) (cache : CacheHome) :
    Surroundings where
  now := now
  store := RefreshStore.empty
  directory := Directory.ofList users
  cache := cache
  ids := 0
  values := values
  numbered := 0
  requestIds := 0
  mishaps := []
  asked := []
  brokenDown := false

/-- Removes the first mishap that is set for a collaborator. -/
def takeMishap (who : Collaborator) :
    List (Collaborator × Mishap) → Option Mishap × List (Collaborator × Mishap)
  | [] => (none, [])
  | (c, m) :: rest =>
    if c = who then (some m, rest)
    else
      let (found, rest) := takeMishap who rest
      (found, (c, m) :: rest)

/-- The answer of a collaborator, or the fault that is set for it. -/
def through {α : Type} (who : Collaborator) (act : Surroundings → Except Fault α × Surroundings)
    (s : Surroundings) : Except Fault α × Surroundings :=
  let (mishap, rest) := takeMishap who s.mishaps
  let s := { s with mishaps := rest }
  match mishap with
  | some (.fails f) => (.error f, s)
  | _ => act s

/-- The surroundings behind a use of the client, with the result of the use, or what is to stand for one where the
client has broken down. -/
def used {α β : Type} (s : Surroundings) (settings : Redis.Settings) (use : Option α × Redis.Link) (read : α → β)
    (fallback : β) : β × Surroundings :=
  match use with
  | (some a, link) => (read a, { s with cache := .redis settings link })
  | (none, link) => (fallback, { s with cache := .redis settings link, brokenDown := true })

def fetch (key : String) (s : Surroundings) : Except Fault (Option String) × Surroundings :=
  match s.cache with
  | .shelf shelf => (.ok (shelf.get s.now key), s)
  | .redis settings link =>
    s.used settings (link.get settings key) (·.mapError Redis.Trouble.fault) (.error Outage.cache.fault)

def remember (key text : String) (ttl : Ttl) (s : Surroundings) :
    Except Fault Unit × Surroundings :=
  match s.cache with
  | .shelf shelf =>
    let (r, shelf) := shelf.set s.now key text ttl
    (r, { s with cache := .shelf shelf })
  | .redis settings link =>
    s.used settings (link.set settings key text (Redis.Link.keepSeconds ttl)) (·.mapError Redis.Trouble.fault)
      (.error Outage.cache.fault)

/-- What a ping says about the cache server. -/
def pinged : Except Redis.Trouble Bool → ComponentHealth
  | .ok true => ⟨.redis, true, "PONG"⟩
  | .ok false => ⟨.redis, false, "unexpected PING reply"⟩
  | .error _ => ⟨.redis, false, Outage.cache.message⟩

/-- Pings the cache server, if there is one. -/
def health (s : Surroundings) : HealthReport × Surroundings :=
  match s.cache with
  | .shelf _ => (⟨[]⟩, s)
  | .redis settings link =>
    s.used settings (link.ping settings) (fun r => ⟨[pinged r]⟩) ⟨[]⟩

def freshValue (bytes : Nat) (s : Surroundings) : String × Surroundings :=
  match s.values with
  | v :: rest => (v, { s with values := rest })
  | [] =>
    ("refresh-" ++ padded 4 s.numbered ++ "-" ++ toString bytes,
      { s with numbered := s.numbered + 1 })

def tryRevoke (value : String) (s : Surroundings) : Except Fault Bool × Surroundings :=
  let (mishap, rest) := takeMishap .storeRevoke s.mishaps
  let s := { s with mishaps := rest }
  match mishap with
  | some (.fails f) => (.error f, s)
  | some .lost => (.ok false, s)
  | none =>
    let (won, store) := s.store.tryRevoke value
    (.ok won, { s with store := store })

def add (token : Token) (s : Surroundings) : Except Fault Unit × Surroundings :=
  let (r, store) := s.store.add token
  (r, { s with store := store })

/-- Answers one request. -/
def reply : (r : Request) → Surroundings → r.Answer × Surroundings
  | .now, s => (s.now, s)
  | .find value, s => s.through .storeGet fun s => (s.store.get value, s)
  | .tryRevoke value, s => s.tryRevoke value
  | .add token, s => s.through .storeAdd (add token)
  | .freshId, s => (Uuid.ofNat (s.ids + 1), { s with ids := s.ids + 1 })
  | .freshValue bytes, s => s.freshValue bytes
  | .resolve user, s => s.through .resolve fun s => (s.directory.resolve user, s)
  | .fetch key, s => s.through .cacheGet (fetch key)
  | .remember key text ttl, s => s.through .cacheSet (remember key text ttl)
  | .health, s => s.health
  | .freshRequestId, s =>
    (Uuid.ofRandom (BitVec.ofNat 128 s.requestIds), { s with requestIds := s.requestIds + 1 })

/-- Answers one request and puts it on record. -/
def answer (r : Request) (s : Surroundings) : r.Answer × Surroundings :=
  reply r { s with asked := s.asked ++ [r] }

def run {α : Type} (c : Call α) (s : Surroundings) : α × Surroundings := c.run answer s

/-- Moves the clock, if that does not take it past the calendar. -/
def advance (step : Duration) (s : Surroundings) : Option Surroundings :=
  (s.now.add? step).map fun t => { s with now := t }

end Surroundings

/-- How the record shows a request. The time and requests of the HTTP layer are not shown. -/
def Request.text? : Request → Option String
  | .now => none
  | .find v => some ("store.get " ++ v)
  | .tryRevoke v => some ("store.try_revoke " ++ v)
  | .add t => some ("store.add " ++ t.value)
  | .freshId => some "id"
  | .freshValue n => some ("random " ++ toString n)
  | .resolve u => some ("resolve " ++ u.text)
  | .fetch k => some ("cache.get " ++ k)
  | .remember k text ttl => some ("cache.set " ++ k ++ " " ++ text ++ " " ++ toString ttl.seconds ++ "."
      ++ padded 9 (ttl.nanos % 1000000000))
  | .health => none
  | .freshRequestId => none

end Bearer
