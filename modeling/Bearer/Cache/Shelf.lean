import Bearer.Fault
import Bearer.Store.Table
import Bearer.Time.Printed
/-! Texts kept for a while. An entry counts as long as the clock is before its end. Writing sweeps away
the entries that have ended, so that the shelf does not grow without bound; reading never does. -/

namespace Bearer

structure Shelf.Entry where
  text : String
  expiresAt : Instant
  deriving DecidableEq

structure Shelf where
  entries : Table String Shelf.Entry

namespace Shelf

def empty : Shelf := ⟨Table.empty⟩

instance : Inhabited Shelf := ⟨empty⟩

def Entry.isLive (now : Instant) (e : Entry) : Bool := decide (now < e.expiresAt)

def get (s : Shelf) (now : Instant) (key : String) : Option String :=
  ((s.entries.get? key).filter (Entry.isLive now)).map Entry.text

/-- The instant at which an entry written now will end. -/
def expiry (now : Instant) (ttl : Ttl) : Except Fault Instant :=
  match ttl.toDuration? with
  | none => .error (.internal
      "Cache TTL out of range: Source duration value is out of range for the target type")
  | some d =>
    match now.add? d with
    | none => .error (.internal ("Cache TTL overflows the calendar: " ++ d.text))
    | some t => .ok t

def set (s : Shelf) (now : Instant) (key text : String) (ttl : Ttl) : Except Fault Unit × Shelf :=
  match expiry now ttl with
  | .error f => (.error f, s)
  | .ok t => (.ok (), ⟨(s.entries.filter (Entry.isLive now)).insert key ⟨text, t⟩⟩)

end Shelf

end Bearer
