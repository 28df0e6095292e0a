import Bearer.Fault
/-! Why a server behind the service cannot be used. To a caller every outage is a fault of what the service
keeps its data in. -/

namespace Bearer

inductive Outage
  | database
  | cache
  /-- The settings ask for something that cannot be. -/
  | config (message : String)
  deriving DecidableEq, Repr

namespace Outage

def kind : Outage → String
  | database => "Database"
  | cache => "Cache"
  | config _ => "Config"

/-- What the server itself reported is for the log only. -/
def message : Outage → String
  | database => "Database error"
  | cache => "Cache error"
  | config m => "Configuration error: " ++ m

def fault (o : Outage) : Fault := .repository o.message

end Outage

end Bearer
