import Bearer.Settings.Value
/-! Names of settings within tables: a key, and behind it keys after points and numbers in brackets. Setting
a value at a path makes the tables and arrays on the way. -/

namespace Bearer.Settings

inductive Step
  | key (name : String)
  /-- An item of an array; negative numbers count from its end. -/
  | item (index : Int)
  deriving DecidableEq, Repr

structure Path where
  head : String
  steps : List Step
  deriving DecidableEq, Repr

namespace Path

/-- Keys consist of letters and digits of ASCII, spaces, hyphens and underscores. -/
def isKeyChar (c : Char) : Bool := c.isAlphanum || c == ' ' || c == '_' || c == '-'

def isPad (c : Char) : Bool := c == ' ' || c == '\t'

/-- A number up to a closing bracket, and what is behind that. -/
def index? (cs : List Char) : Option (Int × List Char) :=
  let cs := cs.dropWhile isPad
  let digits := match cs with
    | '-' :: rest => rest.takeWhile Char.isDigit
    | cs => cs.takeWhile Char.isDigit
  let negative := cs.head? == some '-'
  match (cs.drop (digits.length + negative.toNat)).dropWhile isPad with
  | ']' :: rest =>
    (Text.signed? 64 (String.ofList ((if negative then ['-'] else []) ++ digits))).map (·, rest)
  | _ => none

/-- The steps behind a key; the fuel is the length of the text. -/
def steps? : Nat → List Char → Option (List Step)
  | _, [] => some []
  | 0, _ => none
  | fuel + 1, '.' :: rest =>
    let name := rest.takeWhile isKeyChar
    if name.isEmpty then none
    else (steps? fuel (rest.drop name.length)).map (.key (String.ofList name) :: ·)
  | fuel + 1, '[' :: rest =>
    match index? rest with
    | none => none
    | some (i, rest) => (steps? fuel rest).map (.item i :: ·)
  | _, _ => none

/-- Reads a path. A text that is none is a key as it stands. -/
def ofText (s : String) : Path :=
  let cs := s.toList
  let name := cs.takeWhile isKeyChar
  let path? : Option Path :=
    if name.isEmpty then none
    else (steps? cs.length (cs.drop name.length)).map (⟨String.ofList name, ·⟩)
  path?.getD ⟨s, []⟩

/-- The items of an array, made longer if it ends before an index. -/
def reaching (index : Nat) (items : List Value) : List Value :=
  items ++ List.replicate (index + 1 - items.length) .nil

def items : Value → List Value
  | .array xs => xs
  | _ => []

/-- Where an index points in an array of a length. -/
def position (index : Int) (length : Nat) : Nat :=
  if 0 ≤ index then index.toNat else (length + index).toNat

/-- Changes what is at the end of some steps. What is on the way and has no parts is replaced by an empty
table or array. -/
def change (f : Value → Value) : List Step → Value → Value
  | [], v => f v
  | .key k :: rest, v =>
    .table (Pairs.put k (change f rest ((Pairs.at? k v.entries).getD .nil)) v.entries)
  | .item i :: rest, v =>
    let place := position i (items v).length
    .array ((reaching place (items v)).modify place (change f rest))

/-- Sets the last step of a path, given what it leads out of. -/
def setStep (value : Value) : Step → Value → Value
  | .key k, v => .table (Value.setKey v.entries k value)
  | .item i, v =>
    let place := position i (items v).length
    .array ((reaching place (items v)).set place value)

/-- Sets the value at a path in a table. -/
def set (p : Path) (value : Value) (es : Value.Entries) : Value.Entries :=
  match p.steps.getLast? with
  | none => Value.setKey es p.head value
  | some last =>
    Pairs.put p.head
      (change (setStep value last) p.steps.dropLast ((Pairs.at? p.head es).getD .nil)) es

/-- Sets all entries of a layer, each at the path that its key reads as. -/
def setLayer (layer es : Value.Entries) : Value.Entries :=
  layer.foldl (fun es (k, v) => (ofText k).set v es) es

example : ofText "server.port" = ⟨"server", [.key "port"]⟩ := by decide +kernel
example : ofText "a[0].b" = ⟨"a", [.item 0, .key "b"]⟩ ∧ ofText "a." = ⟨"a.", []⟩ := by decide +kernel

end Path

end Bearer.Settings
