import Bearer.Json.Value
/-! Records read from JSON. A record is an object, in which members that are not its fields count for
nothing and its fields come once, or an array of its fields in their order. A field that is left out
has the value that its kind gives: a default where it has one, absence where it is optional. In an
array only fields with defaults may be left out, at the end. -/

namespace Bearer.Json

structure Record where
  positional : Bool
  fields : List (String × Json)

def record? (names : List String) : Json → Option Record
  | obj members =>
    let fields := members.filter fun m => names.contains m.1
    if (fields.map Prod.fst).Nodup then some ⟨false, fields⟩ else none
  | arr items => if items.length ≤ names.length then some ⟨true, names.zip items⟩ else none
  | _ => none

namespace Record

def required {α : Type} (r : Record) (name : String) (read : Json → Option α) : Option α :=
  (r.fields.lookup name).bind read

def defaulted {α : Type} (r : Record) (name : String) (default : α) (read : Json → Option α) :
    Option α :=
  match r.fields.lookup name with
  | some j => read j
  | none => some default

def optional {α : Type} (r : Record) (name : String) (read : Json → Option α) :
    Option (Option α) :=
  match r.fields.lookup name with
  | some j => nullable read j
  | none => if r.positional then none else some none

end Record

end Bearer.Json
