import Bearer.Text.Dump
/-! How the servers behind the service are doing. What lives in the process itself is not listed, so a
report without components is a healthy one. -/

namespace Bearer

inductive Component
  | mysql
  | redis
  deriving DecidableEq, Repr

def Component.name : Component → String
  | mysql => "mysql"
  | redis => "redis"

structure ComponentHealth where
  component : Component
  healthy : Bool
  detail : String
  deriving DecidableEq, Repr

structure HealthReport where
  components : List ComponentHealth
  deriving DecidableEq, Repr

instance : Inhabited HealthReport := ⟨⟨[]⟩⟩

def ComponentHealth.dump (c : ComponentHealth) : String :=
  Dump.record "ComponentHealth"
    [("name", Dump.quoted c.component.name), ("healthy", Dump.bool c.healthy),
      ("detail", Dump.quoted c.detail)]

namespace HealthReport

def isHealthy (r : HealthReport) : Bool := r.components.all fun c => c.healthy

def status (r : HealthReport) : String := if r.isHealthy then "healthy" else "unhealthy"

def dump (r : HealthReport) : String :=
  Dump.record "HealthReport" [("components", Dump.list (r.components.map ComponentHealth.dump))]

end HealthReport

end Bearer
