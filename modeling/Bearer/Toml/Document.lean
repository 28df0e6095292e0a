import Bearer.Settings.Value
import Bearer.Toml.Reader
/-! Documents of TOML. The lines are gathered into sections, one for each header, and the sections into
tables. A table has its entries in one place, and no key twice, be it of an entry or of a table in it. A
table that begins with a certain key is not one: it stands for the time that the key's value writes. -/

namespace Bearer.Toml

/-- The entries under a header. The ones before the first header belong to the document itself. -/
structure Part where
  header : List String
  isItem : Bool
  entries : Entries

/-- Gathers lines, `current` being the part that they belong to. -/
def gather? (current : Part) : List Line → Option (List Part)
  | [] => some [current]
  | .header ks isItem :: rest => (gather? ⟨ks, isItem, []⟩ rest).map (current :: ·)
  | .pair ks v :: rest => do
    let es ← add? v ks current.entries
    gather? { current with entries := es } rest

def distinct (keys : List String) : Bool := decide keys.Nodup

/-- The key of a table that stands for a time. -/
def timeKey : String := "$__toml_private_datetime"

/-- The time that a value writes, as a setting. -/
def writtenTime? : Value → Option Settings.Value
  | .text s => (time? s.toList).map .text
  | _ => none

mutual

/-- A value as a setting. A time is its text. -/
def setting? : Value → Option Settings.Value
  | .text s => some (.text s)
  | .number (.int n) => some (.int n)
  | .number (.float x) => some (.float x)
  | .flag b => some (.flag b)
  | .time s => some (.text s)
  | .array items => (settings? items).map .array
  | .table es => tableOrTime? es
  | .dotted es => tableOrTime? es

/-- What entries mean on their own. Behind a time nothing is looked at. -/
def tableOrTime? : List (String × Value) → Option Settings.Value
  | [] => some (.table [])
  | (k, v) :: es =>
    if k = timeKey then writtenTime? v
    else do
      let v ← setting? v
      let es ← entries? es
      if distinct (k :: es.map Prod.fst) then some (.table ((k, v) :: es)) else none

def settings? : List Value → Option (List Settings.Value)
  | [] => some []
  | v :: vs => do
    let v ← setting? v
    let vs ← settings? vs
    some (v :: vs)

def entries? : List (String × Value) → Option (List (String × Settings.Value))
  | [] => some []
  | (k, v) :: es => do
    let v ← setting? v
    let es ← entries? es
    some ((k, v) :: es)

end

/-- The parts of each item of an array of tables: each header of its own begins one. -/
def itemsOf : List Part → List (List Part)
  | [] => []
  | p :: ps =>
    match itemsOf ps with
    | [] => [[p]]
    | g :: gs =>
      if (g.head?.any fun q => q.header.isEmpty && q.isItem) then [p] :: g :: gs else (p :: g) :: gs

/-- What a table begins with: the key of an entry and its value, or the key of a table in it. -/
def first? : List Part → Option (String × Option Value)
  | [] => none
  | p :: ps =>
    match p.header, p.entries with
    | k :: _, _ => some (k, none)
    | [], (k, v) :: _ => some (k, some v)
    | [], [] => first? ps

/-- The time that a table stands for, where it begins like one. -/
def partsTime? (parts : List Part) : Option (Option Settings.Value) :=
  match first? parts with
  | some (k, v) => if k = timeKey then some (v.bind writtenTime?) else none
  | none => none

/-- The table of some parts; `asItem` says that the first of them is the header of an item. One that stands
for a time has no other parts. The fuel exceeds the length of the headers. -/
def table? : Nat → Bool → List Part → Option Settings.Value
  | 0, _, _ => none
  | fuel + 1, asItem, parts => do
    if let some time := partsTime? parts then
      return ← if parts.length = 1 && (asItem || !parts.any Part.isItem) then time else none
    let own := parts.filter fun p => p.header.isEmpty
    if 1 < own.length then none
    if !asItem && own.any fun p => p.isItem then none
    let es ← entries? (own.flatMap Part.entries)
    let names := (parts.filterMap fun p => p.header.head?).eraseDups
    if !distinct (es.map Prod.fst ++ names) then none
    let inner ← names.mapM fun k => do
      let below := parts.filterMap fun p =>
        if p.header.head? == some k then some { p with header := p.header.drop 1 } else none
      if below.head?.any fun p => p.header.isEmpty && p.isItem then
        ((itemsOf below).mapM (table? fuel true)).map fun ts => (k, Settings.Value.array ts)
      else
        (table? fuel false below).map fun t => (k, t)
    some (.table (es ++ inner))

/-- A line feed stands for a carriage return with a line feed, and a byte order mark in front for nothing. -/
def plainLines : List Char → List Char
  | '\x0d' :: '\n' :: rest => '\n' :: plainLines rest
  | c :: rest => c :: plainLines rest
  | [] => []

/-- The table that a document is, or the time that it stands for whatever follows. -/
def parse? (text : String) : Option Settings.Value := do
  let cs := plainLines (match text.toList with
    | '\ufeff' :: rest => rest
    | cs => cs)
  let lines ← lines? (cs.length + 1) cs
  let parts ← gather? ⟨[], false, []⟩ lines
  match partsTime? parts with
  | some time => time
  | none => table? (2 + parts.foldl (fun n p => max n p.header.length) 0) false parts

end Bearer.Toml
