import Bearer.Log.Event
/-! Steps of the startup. They may fail, and what they report stays. -/

namespace Bearer

abbrev Startup (ε α : Type) := ExceptT ε (StateM (List Log.Event)) α

namespace Startup

variable {ε δ α : Type}

def report (e : Log.Event) : Startup ε Unit := modify fun es => es ++ [e]

/-- A result that is there already. -/
def ofExcept (r : Except ε α) : Startup ε α := ExceptT.mk (pure r)

/-- How the steps end, and all that they report. -/
def outcome (x : Startup ε α) : Except ε α × List Log.Event := StateT.run (ExceptT.run x) []

def mapFault (f : ε → δ) (x : Startup ε α) : Startup δ α := ExceptT.adapt f x

end Startup

end Bearer
