import Bearer.Json.Canonical
import Bearer.Json.Record
import Bearer.Signing.Algorithm
/-! The header of a signed token. Only the algorithm counts for verification, but every registered
member has to have its type. -/

namespace Bearer.Signing

def texts? : Json → Option (List String)
  | .arr items => items.mapM Json.text?
  | _ => none

/-- The algorithm of a key, by name. The name may also be paired with an empty object. -/
def keyAlgorithm? (j : Json) : Option Unit := do
  let name ← match j with
    | .obj [(s, .obj [])] => some s
    | j => j.caseName?
  if (Algorithm.ofName? name).isSome ∨ name ∈ ["RSA1_5", "RSA-OAEP", "RSA-OAEP-256"] then some () else none

/-- Whether the members that any key may carry are in order. -/
def hasKeyDetails (key : Json) : Bool :=
  let read : Option Unit := do
    let r ← key.record? ["use", "key_ops", "alg", "kid", "x5u", "x5c", "x5t", "x5t#S256"]
    let _ ← r.optional "use" Json.text?
    let _ ← r.optional "key_ops" texts?
    let _ ← r.optional "alg" keyAlgorithm?
    let _ ← r.optional "kid" Json.text?
    let _ ← r.optional "x5u" Json.text?
    let _ ← r.optional "x5c" texts?
    let _ ← r.optional "x5t" Json.text?
    let _ ← r.optional "x5t#S256" Json.text?
    some ()
  read.isSome

/-- The types of keys, each with the members that make it one. -/
def keyTypes : List (String × List String) :=
  [("EC", ["crv", "x", "y"]), ("RSA", ["n", "e"]), ("oct", ["k"]), ("OKP", ["crv", "x"])]

def curve? (j : Json) : Option String :=
  j.caseName?.filter fun name => ["P-256", "P-384", "P-521", "Ed25519"].contains name

/-- Whether a key is of a type. Its other members may be anything and come as often as they like. -/
def isOfType (key : Json) (type : String × List String) : Bool :=
  let read : Option Unit := do
    let r ← key.record? ("kty" :: type.2)
    let _ ← (r.required "kty" Json.caseName?).filter (· == type.1)
    type.2.forM fun name => do
      let _ ← r.required name (if name = "crv" then curve? else Json.text?)
  read.isSome

/-- A public or shared key as an object. -/
def key? (j : Json) : Option Unit := do
  let _ ← j.built? 1
  match j with
  | .obj _ => if hasKeyDetails j && keyTypes.any (isOfType j) then some () else none
  | _ => none

/-- The algorithm that a header names. -/
def header? (j : Json) : Option Algorithm := do
  let r ← j.record? ["typ", "alg", "cty", "jku", "jwk", "kid", "x5u", "x5c", "x5t", "x5t#S256"]
  let _ ← r.optional "typ" Json.text?
  let algorithm ← r.required "alg" fun j => j.caseName?.bind Algorithm.ofName?
  let _ ← r.optional "cty" Json.text?
  let _ ← r.optional "jku" Json.text?
  let _ ← r.optional "jwk" key?
  let _ ← r.optional "kid" Json.text?
  let _ ← r.optional "x5u" Json.text?
  let _ ← r.optional "x5c" texts?
  let _ ← r.optional "x5t" Json.text?
  let _ ← r.optional "x5t#S256" Json.text?
  some algorithm

/-- The header that the service writes. -/
def headerOf (a : Algorithm) : Json := .obj [("typ", .str "JWT"), ("alg", .str a.name)]

end Bearer.Signing
