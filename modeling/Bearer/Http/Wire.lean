import Bearer.Http.App
/-! Requests and responses as they are sent. The values of headers are bytes, of which not all are text, and there can
be several under one name. -/

namespace Bearer.Http

/-- Names and values in the order in which they are sent. -/
abbrev Headers := List (String × List UInt8)

namespace Headers

/-- All values under a name, which is given in lower case. -/
def values (hs : Headers) (name : String) : List (List UInt8) :=
  (hs.filter fun h => Text.lowerAscii h.1 == name).map Prod.snd

/-- Puts a value under a name, in the place of all that are there. -/
def put (hs : Headers) (name : String) (value : List UInt8) : Headers :=
  (hs.filter fun h => Text.lowerAscii h.1 != name) ++ [(name, value)]

/-- A value read as text, each byte as the character of its number. -/
def text (value : List UInt8) : String := String.ofList (value.map fun b => Char.ofNat b.toNat)

/-- A text as a value. No control character but the tab can be sent in one. -/
def value? (s : String) : Option (List UInt8) :=
  if (Utf8.bytes s).all fun b => (32 ≤ b && b ≠ 127) || b == 9 then some (Utf8.bytes s) else none

end Headers

/-- A request as it comes in. -/
structure Inbound where
  method : String
  target : String
  headers : Headers
  body : List UInt8

def Inbound.request (i : Inbound) : Request where
  method := i.method
  target := i.target
  headers := i.headers.map fun h => (h.1, Headers.text h.2)
  body := i.body

/-- A response as it goes out. -/
structure Outbound where
  status : Nat
  headers : Headers
  body : Body

/-- The headers that come with the kind of response. -/
def Response.headers (r : Response) : Headers :=
  (r.body.contentType?.map fun t => ("content-type", Utf8.bytes t)).toList
    ++ (r.challenge?.map fun t => ("www-authenticate", Utf8.bytes t)).toList

def requestIdName : String := "x-request-id"

/-- The response with the identifier of its request, if that can be sent. -/
def Response.identified (r : Response) (id : RequestId) : Outbound where
  status := r.status
  headers :=
    match Headers.value? id.text with
    | some value => r.headers.put requestIdName value
    | none => r.headers
  body := r.body

/-- Answers a request as it comes in. -/
def App.exchange (app : App) (i : Inbound) : Call Outbound := do
  let (r, id) ← app.handle i.request
  pure (r.identified id)

end Bearer.Http
