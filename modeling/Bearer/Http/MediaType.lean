import Bearer.Text.Split
/-! Media types, as far as a receiver has to tell whether a body is JSON: a type and a subtype, perhaps with
a suffix behind a plus sign, and parameters that have to be well formed but do not matter. -/

namespace Bearer.Http.MediaType

/-- The characters of a name: visible ones of ASCII that are no separators. -/
def isName (c : Char) : Bool :=
  c.isAlphanum || "!#$%&'*+-.^_|~".toList.contains c || c == '\x60'

/-- A quoted value may hold everything but control characters, and quotes only as its first character. -/
def isQuotable (c : Char) : Bool := 32 ≤ c.toNat && c.toNat ≠ 127 && c ≠ '"'

/-- Whether parameters are well formed: each a name, an equals sign, and a name or quoted text. -/
def parametersOk : Nat → List Char → Bool
  | 0, cs => cs.isEmpty
  | fuel + 1, cs =>
    let cs := cs.dropWhile (· == ' ')
    if cs.isEmpty then true
    else
      let name := cs.takeWhile isName
      match cs.drop name.length with
      | '=' :: '"' :: first :: rest =>
        let text := rest.takeWhile isQuotable
        match rest.drop text.length with
        | '"' :: rest =>
          if name.isEmpty || !(isQuotable first || first == '"') then false
          else
            match rest.dropWhile (· == ' ') with
            | [] => true
            | ';' :: rest => parametersOk fuel rest
            | _ => false
        | _ => false
      | '=' :: rest =>
        let value := rest.takeWhile isName
        match rest.drop value.length with
        | [] => !name.isEmpty
        | ';' :: rest => !name.isEmpty && !value.isEmpty && parametersOk fuel rest
        | _ => false
      | _ => false

/-- The subtype without its suffix, and the suffix behind the last plus sign. -/
def splitSuffix (subtype : List Char) : List Char × List Char :=
  let suffix := (subtype.reverse.takeWhile (· ≠ '+')).reverse
  let before := subtype.take (subtype.length - suffix.length - 1)
  if suffix.length < subtype.length ∧ before ≠ [] then (before, suffix) else (subtype, [])

/-- Whether a media type says that a body is JSON, by its subtype or its suffix. -/
def isJson (text : String) : Bool :=
  let cs := text.toList
  let kind := cs.takeWhile isName
  match cs.drop kind.length with
  | '/' :: rest =>
    let subtype := rest.takeWhile isName
    let (name, suffix) := splitSuffix (subtype.map Char.toLower)
    let isIt := name = "json".toList ∨ suffix = "json".toList
    match rest.drop subtype.length with
    | [] => !kind.isEmpty && decide isIt
    | ';' :: rest => !kind.isEmpty && decide isIt && parametersOk (rest.length + 1) rest
    | _ => false
  | _ => false

example : isJson "Application/VND.api+JSON; charset=utf-8" = true := by decide +kernel
example : isJson "json" = false ∧ isJson "text/jsonx" = false := by decide +kernel

end Bearer.Http.MediaType
