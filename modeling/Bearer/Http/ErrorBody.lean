import Bearer.Fault
import Bearer.Json.Canonical
import Bearer.Json.Record
import Bearer.Time.Stamp
/-! The body of an answer that reports an error: a code for programs, a message for people, perhaps details
under names of their own, and the time. -/

namespace Bearer.Http

inductive ErrorCode
  | tokenInvalid
  | tokenExpired
  | tokenRevoked
  | invalidArgument
  | notFound
  | internalError
  deriving DecidableEq, Repr

def ErrorCode.name : ErrorCode → String
  | tokenInvalid => "TOKEN_INVALID"
  | tokenExpired => "TOKEN_EXPIRED"
  | tokenRevoked => "TOKEN_REVOKED"
  | invalidArgument => "INVALID_ARGUMENT"
  | notFound => "NOT_FOUND"
  | internalError => "INTERNAL_ERROR"

structure ErrorBody where
  code : String
  message : String
  details : Option (List (String × Json))

namespace ErrorBody

def ofCode (code : ErrorCode) (message : String) : ErrorBody := ⟨code.name, message, none⟩

/-- Adds a detail; a name that is there already gets the new value. -/
def withDetail (b : ErrorBody) (name : String) (value : Json) : ErrorBody :=
  { b with details := some (Json.setSorted name value (b.details.getD [])) }

def toJson (b : ErrorBody) (time : String) : Json :=
  .obj ([("error", .str b.code), ("message", .str b.message)]
    ++ (match b.details with
      | some ds => [("details", .obj ds)]
      | none => [])
    ++ [("timestamp", .str time)])

/-- Details are kept values inside two objects. -/
def details? : Json → Option (List (String × Json))
  | .obj members => do
    let kept ← members.mapM fun (k, v) => (v.built? 2).map fun v => (k, v)
    some (kept.foldl (fun sorted (k, v) => Json.setSorted k v sorted) [])
  | _ => none

/-- A body and its time. -/
def ofJson? (j : Json) : Option (ErrorBody × Stamp) := do
  let r ← j.record? ["error", "message", "details", "timestamp"]
  let code ← r.required "error" Json.text?
  let message ← r.required "message" Json.text?
  let details ← r.optional "details" details?
  let time ← r.required "timestamp" fun j => j.text?.bind Stamp.parse?
  some (⟨code, message, details⟩, time)

end ErrorBody

end Bearer.Http
