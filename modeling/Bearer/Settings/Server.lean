import Bearer.Settings.Format
/-! Where and how the service listens. -/

namespace Bearer.Settings

structure Server where
  host : String
  port : UInt16
  /-- Threads that serve requests, 0 for as many as there are processors. -/
  workers : UInt64
  /-- Seconds for which an idle connection is kept. -/
  keepAlive : UInt64
  /-- The most bytes of a request body. -/
  maxPayload : UInt64
  deriving DecidableEq, Repr

namespace Server

def ofHost (host : String) (port : UInt16) : Server := ⟨host, port, 0, 30, 16384⟩

def standard : Server := ofHost "127.0.0.1" 8080

def address (s : Server) : String := s.host ++ ":" ++ toString s.port.toNat

def toJson (s : Server) : Json :=
  .obj [("host", .str s.host), ("port", .ofNat s.port.toNat), ("workers", .ofNat s.workers.toNat),
    ("keep_alive", .ofNat s.keepAlive.toNat), ("max_payload_size", .ofNat s.maxPayload.toNat)]

def read? {δ : Type} (f : Format δ) (d : δ) : Option Server := do
  let r ← f.record? ["host", "port", "workers", "keep_alive", "max_payload_size"] d
  let host ← Format.required r "host" f.text?
  let port ← Format.required r "port" (f.unsigned? 16)
  let workers ← Format.defaulted r "workers" 0 (f.unsigned? 64)
  let keepAlive ← Format.defaulted r "keep_alive" 30 (f.unsigned? 64)
  let maxPayload ← Format.defaulted r "max_payload_size" 16384 (f.unsigned? 64)
  some ⟨host, port.toUInt16, workers.toUInt64, keepAlive.toUInt64, maxPayload.toUInt64⟩

end Server

end Bearer.Settings
