import Bearer.Redis.Reply
/-! A Redis server that follows a script. Each connection has a list of replies for the commands on it;
where the script says nothing the server answers from its data, which all connections share. -/

namespace Bearer.Redis

/-- What a script says about one command. -/
inductive Cue
  | natural
  | reply (r : Reply)
  | close
  deriving Repr

structure Server where
  down : Bool
  /-- The scripts of the connections to come. -/
  scripts : List (List Cue)
  accepted : Nat
  received : List (List String)
  data : Table String String

namespace Server

def ofScripts (down : Bool) (scripts : List (List Cue)) : Server := ⟨down, scripts, 0, [], Table.empty⟩

/-- The answer without a script. Entries never end. -/
def natural (s : Server) : List String → Reply × Server
  | ["GET", key] =>
    match s.data.get? key with
    | some v => (.bulk v, s)
    | none => (.nil, s)
  | ["SETEX", key, _, value] => (.ok, { s with data := s.data.insert key value })
  | ["DEL", key] =>
    match s.data.get? key with
    | some _ => (.int 1, { s with data := s.data.erase key })
    | none => (.int 0, s)
  | ["PING"] => (.status "PONG", s)
  | _ => (.ok, s)

/-- The script of the next connection, `none` if nothing listens. -/
def accept? (s : Server) : Option (List Cue) × Server :=
  if s.down then (none, s)
  else
    match s.scripts with
    | [] => (some [], { s with accepted := s.accepted + 1 })
    | script :: rest => (some script, { s with accepted := s.accepted + 1, scripts := rest })

def receive (s : Server) (command : List String) : Server :=
  { s with received := s.received ++ [command] }

end Server

end Bearer.Redis
