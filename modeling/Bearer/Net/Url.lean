import Bearer.Net.Host
/-! Addresses of servers as URLs. The credentials of a URL end at the last at sign before its path, the user's
name at the first colon in them. A path is freed of the names that stand for this folder and the one above. -/

namespace Bearer

structure Url where
  scheme : String
  /-- The user's name as it is written. -/
  user : List Char
  password : Option (List Char)
  host : Option Host
  port : Option Nat
  path : List Char
  query : Option (List Char)

namespace Url

/-- Controls and spaces around a URL, tabs and line ends in it count for nothing. -/
def strip (cs : List Char) : List Char :=
  let isOuter (c : Char) : Bool := c.toNat ≤ 32
  let inner := ((cs.dropWhile isOuter).reverse.dropWhile isOuter).reverse
  inner.filter fun c => c ≠ '\t' ∧ c ≠ '\n' ∧ c ≠ '\r'

/-- The scheme in lower case, and what follows its colon. -/
def scheme? (cs : List Char) : Option (String × List Char) :=
  let isPart (c : Char) : Bool := c.isAlphanum || c == '+' || c == '-' || c == '.'
  match cs.takeWhile isPart, cs.dropWhile isPart with
  | first :: more, ':' :: rest =>
    if first.isAlpha then some (String.ofList ((first :: more).map Char.toLower), rest) else none
  | _, _ => none

/-- The schemes of the web, which have no meaning without a host. -/
def isWeb (scheme : String) : Bool := scheme ∈ ["http", "https", "ws", "wss", "ftp"]

/-- Splits at the last occurrence of a character. -/
def splitLast? (mark : Char) (cs : List Char) : Option (List Char × List Char) :=
  match cs.reverse.takeWhile (· ≠ mark), cs.reverse.dropWhile (· ≠ mark) with
  | after, _ :: before => some (before.reverse, after.reverse)
  | _, [] => none

def credentials (cs : List Char) : List Char × Option (List Char) :=
  match Text.splitFirst? [':'] cs with
  | some (user, []) => (user, none)
  | some (user, password) => (user, some password)
  | none => (cs, none)

/-- The length of a host, which ends at the first colon outside brackets. -/
def hostLength (isInside : Bool) : List Char → Nat
  | [] => 0
  | c :: cs =>
    if c = ':' ∧ !isInside then 0
    else hostLength (if c = '[' then true else if c = ']' then false else isInside) cs + 1

/-- A port has 16 bits; a colon alone names none. What follows its digits belongs to the path. -/
def port? : List Char → Option (Option Nat × List Char)
  | ':' :: rest =>
    let digits := rest.takeWhile Char.isDigit
    let after := rest.drop digits.length
    if !(after.head?.all (· == '\\')) then none
    else if digits.isEmpty then some (none, after)
    else ((Text.digits? digits).filter (· < 65536)).map fun n => (some n, after)
  | rest => some (none, rest)

def isHere (name : List Char) : Bool := name.map Char.toLower ∈ [['.'], ['%', '2', 'e']]

def isAbove (name : List Char) : Bool :=
  name.map Char.toLower ∈ ["..".toList, ".%2e".toList, "%2e.".toList, "%2e%2e".toList]

/-- The names of a path in turn, the path so far being given in reverse. -/
def walk (done : List (List Char)) : List (List Char) → List (List Char)
  | [] => done.reverse
  | [last] =>
    if isAbove last then ([] :: done.drop 1).reverse
    else if isHere last then ([] :: done).reverse
    else (last :: done).reverse
  | name :: rest =>
    if isAbove name then walk (done.drop 1) rest
    else if isHere name then walk done rest
    else walk (name :: done) rest

/-- A path, which begins with a slash if there is anything of it. -/
def pathOf (isSlash : Char → Bool) (cs : List Char) : List Char :=
  match cs with
  | [] => []
  | first :: rest =>
    let names := (if isSlash first then rest else cs).splitOnP isSlash
    (walk [] names).flatMap fun name => '/' :: name

/-- What stands behind two slashes. Credentials must have a host, and so must a port; an at sign alone may
only end a URL. -/
def withPlace? (u : Url) (isLast : Bool) (isSlash : Char → Bool) (cs : List Char) : Option Url := do
  let place := cs.takeWhile (!isSlash ·)
  let path := cs.drop place.length
  let (written, named) := match splitLast? '@' place with
    | some (before, after) => (credentials before, after)
    | none => (([], none), place)
  if place = ['@'] ∧ !(isLast && path.isEmpty) then none
  let size := hostLength false named
  let host ← if isWeb u.scheme then Host.ofWeb? (named.take size) else Host.ofText? (named.take size)
  let (port, rest) ← port? (named.drop size)
  let u := { u with
    user := written.1, password := written.2, port := port, path := pathOf isSlash (rest ++ path) }
  if !host.isEmpty then some { u with host := some host }
  else if isWeb u.scheme || named.length ≠ size || !written.1.isEmpty || written.2.isSome then none
  else some u

/-- A drive of a machine stands where a host could stand. -/
def isDrive (cs : List Char) : Bool :=
  match cs with
  | [c, mark] => c.isAlpha && (mark == ':' || mark == '|')
  | _ => false

/-- What stands behind the two slashes of a file's URL; this machine is no host. -/
def withMachine? (u : Url) (isSlash : Char → Bool) (cs : List Char) : Option Url :=
  let named := cs.takeWhile (!isSlash ·)
  let u := { u with path := pathOf isSlash (cs.drop named.length) }
  if named.isEmpty || isDrive named then some u
  else (Host.ofWeb? named).map fun h =>
    { u with host := if h = .name "localhost".toList then none else some h }

def parse? (s : String) : Option Url := do
  let (scheme, all) ← scheme? (strip s.toList)
  let rest := all.takeWhile (· ≠ '#')
  let (place, query) := match Text.splitFirst? ['?'] rest with
    | some (before, after) => (before, some after)
    | none => (rest, none)
  let u : Url := ⟨scheme, [], none, none, none, place, query⟩
  let isSlash (c : Char) : Bool := c == '/' || ((isWeb scheme || scheme == "file") && c == '\\')
  let isLast := query.isNone && rest.length == all.length
  if isWeb scheme then u.withPlace? isLast isSlash (place.dropWhile isSlash)
  else
    match place with
    | a :: b :: after =>
      if isSlash a && isSlash b then
        if scheme = "file" then u.withMachine? isSlash after else u.withPlace? isLast isSlash after
      else some { u with path := if isSlash a then pathOf isSlash place else place }
    | _ => some u

/-- The text of a query's part, with spaces for plus signs. -/
def formText (cs : List Char) : String :=
  let spaced := cs.map fun c => if c = '+' then ' ' else c
  String.ofList ((Utf8.decode (Percent.bytes spaced)).map fun c => c.getD '\ufffd')

/-- The pairs of names and values in the query. -/
def pairs (u : Url) : List (String × String) :=
  ((u.query.getD []).splitOn '&').filter (!·.isEmpty) |>.map fun part =>
    match Text.splitFirst? ['='] part with
    | some (name, value) => (formText name, formText value)
    | none => (formText part, "")

/-- Whether the credentials are written bytes of a text. -/
def hasUserText (u : Url) : Bool := (Percent.text? u.user).isSome
def hasPasswordText (u : Url) : Bool := u.password.all fun p => (Percent.text? p).isSome

example : ((parse? "redis://a:b@c@h:1/2").map fun u => (u.password, u.host, u.port))
    = some (some "b@c".toList, some (.name ['h']), some 1) := by decide +kernel
example : (parse? "not a url").isNone ∧ (parse? "x://:1").isNone ∧ (parse? "x://h:65536").isNone := by
  decide +kernel
example : (parse? "x://h/a/./%2e%2E/b/..").map path = some ['/'] := by decide +kernel

end Url

end Bearer
