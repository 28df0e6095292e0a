import Bearer.Cache.Shelf
import Bearer.Outage
import Bearer.Redis.Retry
import Bearer.Redis.Server
import Bearer.Text.Split
/-! A Redis client: connecting, and the commands of a cache. Connecting is tried again whatever went
wrong, on a new connection; a command only where its failure may pass, on the same one, for a client
does not reconnect. What breaks down between two attempts has no result. -/

namespace Bearer.Redis

structure Login where
  user : Option String
  password : Option String
  database : Int

structure Settings where
  login : Login
  attempts : UInt32
  wait : UInt64

inductive Condition
  | sound
  /-- A reply could not be read. The client notices that the connection is lost when it waits for the
  next one. -/
  | garbled
  | closed
  deriving DecidableEq, Repr

/-- A connection to a server, and the milliseconds slept so far. -/
structure Link where
  server : Server
  script : List Cue
  condition : Condition
  slept : Nat

namespace Link

def ofServer (s : Server) : Link := ⟨s, [], .closed, 0⟩

def pause (wait : UInt64) (l : Link) : Link := { l with slept := l.slept + wait.toNat }

/-- Takes a reply of the server. -/
def take (r : Reply) (l : Link) : Except Trouble Reply × Link :=
  if r.isReadable then (r.accept, l) else (.error .wrongType, { l with condition := .garbled })

/-- Sends a command. Once the connection is closed no command reaches the server. -/
def send (command : List String) (l : Link) : Except Trouble Reply × Link :=
  match l.condition with
  | .closed => (.error .io, l)
  | .garbled => (.error .io, { l with server := l.server.receive command, condition := .closed })
  | .sound =>
    let cue := l.script.head?
    let l := { l with server := l.server.receive command, script := l.script.drop 1 }
    match cue with
    | some .close => (.error .io, { l with condition := .closed })
    | some (.reply r) => l.take r
    | some .natural | none =>
      let (r, server) := l.server.natural command
      { l with server := server }.take r

/-- Sends a command that has to be answered `OK`. -/
def expectOk (command : List String) (l : Link) : Except Trouble Unit × Link :=
  match l.send command with
  | (.ok (.status "OK"), l) => (.ok (), l)
  | (.ok _, l) => (.error (.refused ""), l)
  | (.error e, l) => (.error e, l)

def complainsOfArguments (detail : String) : Bool :=
  (Text.splitFirst? "wrong number of arguments for 'auth' command".toList detail.toList).isSome

/-- Presents the password. A server that knows no user names is asked again without one. -/
def authenticate (login : Login) (l : Link) : Except Trouble Unit × Link :=
  match login.password with
  | none => (.ok (), l)
  | some password =>
    match l.expectOk (["AUTH"] ++ login.user.toList ++ [password]) with
    | (.error e, l) =>
      if e.detail?.any complainsOfArguments then l.expectOk ["AUTH", password] else (.error e, l)
    | result => result

def select (login : Login) (l : Link) : Except Trouble Unit × Link :=
  if login.database = 0 then (.ok (), l) else l.expectOk ["SELECT", toString login.database]

/-- One attempt to connect. -/
def dial (login : Login) (l : Link) : Except Trouble Unit × Link :=
  match l.server.accept? with
  | (none, server) => (.error .io, { l with server := server })
  | (some script, server) =>
    match authenticate login { l with server := server, script := script, condition := .sound } with
    | (.error e, l) => (.error e, l)
    | (.ok (), l) => l.select login

def connect (s : Settings) (l : Link) : Option (Except Trouble Unit) × Link :=
  Retry.connect (fun _ => dial s.login) (fun _ => pause) s.attempts s.wait l

/-- Sends a command until it is answered by a reply that can be read, or fails for good. -/
def execute {α : Type} (s : Settings) (command : List String) (read : Reply → Except Trouble α)
    (l : Link) : Option (Except Trouble α) × Link :=
  let attempt (l : Link) : Except Trouble α × Link :=
    match l.send command with
    | (.ok r, l) => (read r, l)
    | (.error e, l) => (.error e, l)
  Retry.execute Trouble.isPassing (fun _ => attempt) (fun _ => pause) s.attempts s.wait l

def get (s : Settings) (key : String) (l : Link) : Option (Except Trouble (Option String)) × Link :=
  l.execute s ["GET", key] Reply.text?

def set (s : Settings) (key value : String) (seconds : Nat) (l : Link) :
    Option (Except Trouble Unit) × Link :=
  l.execute s ["SETEX", key, toString seconds, value] fun r => r.accept.map fun _ => ()

/-- Whether a key was there to delete. -/
def delete (s : Settings) (key : String) (l : Link) : Option (Except Trouble Bool) × Link :=
  l.execute s ["DEL", key] fun r => r.count.map fun n => decide (0 < n)

/-- Whether the server answers as it should. -/
def ping (s : Settings) (l : Link) : Option (Except Trouble Bool) × Link :=
  l.execute s ["PING"] fun r => r.text.map fun t => t == "PONG"

/-- The server refuses to keep an entry for no time at all. -/
def keepSeconds (ttl : Ttl) : Nat := max ttl.seconds 1

end Link

/-- What the server said stays in the log. -/
def Trouble.fault (_ : Trouble) : Fault := Outage.cache.fault

end Bearer.Redis
