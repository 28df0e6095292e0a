import Bearer.Json.Record
import Bearer.Token
/-! Tokens' kinds, grants and descriptors as JSON. -/

namespace Bearer

def Uuid.ofJson? (j : Json) : Option Uuid := j.text?.bind Uuid.parse?

namespace TokenKind

def ofName? : String → Option TokenKind
  | "access" => some access
  | "refresh" => some refresh
  | _ => none

theorem ofName?_name (k : TokenKind) : ofName? k.name = some k := by cases k <;> rfl

def ofJson? (j : Json) : Option TokenKind := j.caseName?.bind ofName?

end TokenKind

namespace Grant

def fields (g : Grant) : List (String × Json) :=
  [("user_id", .str g.user.text), ("access_token", .str g.access), ("refresh_token", .str g.refresh)]

def toJson (g : Grant) : Json := .obj g.fields

def ofJson? (j : Json) : Option Grant := do
  let r ← j.record? ["user_id", "access_token", "refresh_token"]
  let user ← r.required "user_id" Uuid.ofJson?
  let access ← r.required "access_token" Json.text?
  let refresh ← r.required "refresh_token" Json.text?
  some ⟨user, access, refresh⟩

end Grant

namespace Descriptor

def toJson (d : Descriptor) : Json := .obj [("user_id", .str d.user.text), ("username", .str d.name)]

def ofJson? (j : Json) : Option Descriptor := do
  let r ← j.record? ["user_id", "username"]
  let user ← r.required "user_id" Uuid.ofJson?
  let name ← r.required "username" Json.text?
  some ⟨user, name⟩

end Descriptor

end Bearer
