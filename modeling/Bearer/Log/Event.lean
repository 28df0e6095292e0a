import Bearer.Json.Writer
/-! What the service reports of its own doings. -/

namespace Bearer.Log

/-- Severities, the gravest first. -/
inductive Level
  | error
  | warn
  | info
  | debug
  | trace
  deriving DecidableEq, Repr

namespace Level

def name : Level → String
  | error => "ERROR"
  | warn => "WARN"
  | info => "INFO"
  | debug => "DEBUG"
  | trace => "TRACE"

/-- The place in the order of severities. -/
def rank : Level → Nat
  | error => 1
  | warn => 2
  | info => 3
  | debug => 4
  | trace => 5

def all : List Level := [error, warn, info, debug, trace]

def ofRank? (n : Nat) : Option Level := all.find? fun l => l.rank == n

theorem ofRank?_rank (l : Level) : ofRank? l.rank = some l := by cases l <;> rfl

end Level

structure Event where
  level : Level
  /-- The part of the service that reports, its parts in turn behind double colons. -/
  target : String
  message : String
  fields : List (String × Json)

namespace Event

/-- The names of the fields, of which the message is one. -/
def names (e : Event) : List String := "message" :: e.fields.map Prod.fst

def fieldsJson (e : Event) : Json := .obj (("message", .str e.message) :: e.fields)

/-- What the event says. Whoever collects the log adds when. -/
def toJson (e : Event) : Json :=
  .obj [("level", .str e.level.name), ("fields", e.fieldsJson), ("target", .str e.target)]

/-- A line for people. -/
def line (e : Event) : String :=
  e.level.name ++ " " ++ e.target ++ ": " ++ e.message
    ++ String.join (e.fields.map fun (name, value) => " " ++ name ++ "=" ++ value.write)

end Event

end Bearer.Log
