import Bearer.Net.Endpoint
import Bearer.Net.Url
import Bearer.Text.Case
/-! Where a MySQL server is, from its URL. Some options in the query have to be what they should be; the others
do not matter. -/

namespace Bearer.Mysql

def port : Nat := 3306

def encryptions : List String := ["disabled", "preferred", "required", "verify_ca", "verify_identity"]

/-- Whether an option of the query has a fit value. -/
def isFit : String × String → Bool
  | ("sslmode", v) | ("ssl-mode", v) => Text.lowerAscii v ∈ encryptions
  | ("statement-cache-capacity", v) => (Text.unsigned? 64 v).isSome
  | _ => true

/-- A socket, where the query names one, goes before the host. -/
def endpoint? (url : String) : Option Endpoint := do
  let u ← Url.parse? url
  if u.hasUserText && u.hasPasswordText && u.pairs.all isFit then
    match u.pairs.reverse.lookup "socket" with
    | some path => some (.socket (Utf8.bytes path))
    | none => some (.tcp ((u.host.map Host.text).getD "localhost") (u.port.getD port))
  else none

end Bearer.Mysql
