import Bearer.Decimal.Reader
import Bearer.Settings.Dotenv
import Bearer.Settings.Path
import Bearer.Toml.Document
/-! Loading the settings. Over what the environment variables give lies the settings file of the environment,
if there is one, and over that the variables that name a setting by its path. -/

namespace Bearer.Settings

/-- Why settings cannot be loaded. -/
inductive LoadFault
  /-- A number is too large to be layered. -/
  | oversized
  /-- The settings file is not in order. -/
  | malformed
  /-- A setting is missing or is not what it should be. -/
  | unfit
  deriving DecidableEq, Repr

/-- The texts of the files that are there, by name. -/
abbrev Files := Table String String

/-- Variables as they are when the service has read the file that sets some. -/
def Variables.completed (v : Variables) (files : Files) : Variables :=
  match files.get? ".env" with
  | some text => Dotenv.load text v
  | none => v

/-- The value that the text of a variable stands for: a flag, a number, or itself. -/
def Value.ofText (s : String) : Value :=
  match Text.lower s with
  | "true" => .flag true
  | "false" => .flag false
  | _ =>
    match Text.signed? 64 s with
    | some n => .int n
    | none =>
      match Binary64.parse? s with
      | some x => .float x
      | none => .text s

/-- Puts a point for each pair of underscores. -/
def pathText : List Char → List Char
  | '_' :: '_' :: rest => '.' :: pathText rest
  | c :: rest => c :: pathText rest
  | [] => []

/-- The path of the setting that a variable names. -/
def overridden? (name : String) : Option String :=
  (Text.afterFront? "tokenkeep__".toList (Text.lower name).toList).map fun rest =>
    String.ofList (pathText rest)

/-- The variables that name a setting, as a layer. -/
def overrides (v : Variables) : Value.Entries :=
  v.entries.foldl (fun es (name, text) =>
    match overridden? name with
    | some path => Pairs.put path (Value.ofText text) es
    | none => es) []

/-- The names under which the settings file is looked for; the second has the ending twice. -/
def fileNames (e : Environment) : List String := [e.file, e.file ++ ".toml"]

def fileText? (files : Files) (e : Environment) : Option String :=
  (fileNames e).findSome? files.get?

/-- The file's layer, an empty one if there is no file. -/
def fileLayer (files : Files) (e : Environment) : Except LoadFault Value.Entries :=
  match fileText? files e with
  | none => .ok []
  | some text =>
    match Toml.parse? text with
    | some t => .ok t.entries
    | none => .error .malformed

/-- What there is, or else a fault. -/
def orFault {α : Type} (f : LoadFault) (a : Option α) : Except LoadFault α := a.elim (.error f) .ok

/-- Settings with the file of their environment laid over them, and the variables that name a setting over that. -/
def layered (base : Settings) (v : Variables) (files : Files) : Except LoadFault Settings := do
  let defaults ← orFault .oversized (Value.ofJson? base.toJson)
  let file ← fileLayer files base.environment
  let es := Path.setLayer (overrides v) (Path.setLayer file (Path.setLayer defaults.entries []))
  orFault .unfit (read? Value.format (.table es))

def load (v : Variables) (files : Files) : Except LoadFault Settings :=
  let v := v.completed files
  layered (ofVariables v) v files

end Bearer.Settings
