import Bearer.Settings.Format
import Bearer.Text.Case
/-! Where the service runs, and how it logs there. -/

namespace Bearer.Settings

inductive Environment
  | development
  | staging
  | production
  deriving DecidableEq, Repr

namespace Environment

def name : Environment → String
  | development => "development"
  | staging => "staging"
  | production => "production"

def ofName? : String → Option Environment
  | "development" => some development
  | "staging" => some staging
  | "production" => some production
  | _ => none

theorem ofName?_name (e : Environment) : ofName? e.name = some e := by cases e <;> rfl

/-- Reads a name or one of its short forms; blanks around it and capitals do not matter. -/
def parse (s : String) : Except String Environment :=
  match Text.lowerAscii (Text.trim s) with
  | "development" | "dev" | "local" => .ok development
  | "staging" | "stage" => .ok staging
  | "production" | "prod" => .ok production
  | other => .error ("Unknown environment: " ++ other)

def isDevelopment (e : Environment) : Bool := e == development

/-- Whether signing with the built-in secret deserves a warning. -/
def requiresSecret (e : Environment) : Bool := !e.isDevelopment

/-- The settings file that belongs to the environment. -/
def file (e : Environment) : String := "config." ++ e.name ++ ".toml"

end Environment

inductive LogFormat
  | json
  | pretty
  | compact
  deriving DecidableEq, Repr

namespace LogFormat

def name : LogFormat → String
  | json => "json"
  | pretty => "pretty"
  | compact => "compact"

def ofName? : String → Option LogFormat
  | "json" => some json
  | "pretty" => some pretty
  | "compact" => some compact
  | _ => none

theorem ofName?_name (f : LogFormat) : ofName? f.name = some f := by cases f <;> rfl

def parse (s : String) : Except String LogFormat :=
  let name := Text.lowerAscii (Text.trim s)
  match ofName? name with
  | some f => .ok f
  | none => .error ("Unknown log format: " ++ name)

end LogFormat

structure Logging where
  /-- A filter by severity and source. -/
  level : String
  format : LogFormat
  colored : Bool
  sourceLocation : Bool
  deriving DecidableEq, Repr

namespace Logging

/-- Development shows what happens to tokens, deployed services keep to what an operator needs. -/
def preset : Environment → Logging
  | .development => ⟨"info,tk_api=debug,tk_core=debug,tk_infra=debug", .pretty, true, true⟩
  | .staging => ⟨"info,tk_core=debug,sqlx=warn", .json, false, false⟩
  | .production => ⟨"info,sqlx=warn", .json, false, false⟩

def toJson (l : Logging) : Json :=
  .obj [("level", .str l.level), ("format", .str l.format.name), ("colored", .bool l.colored),
    ("source_location", .bool l.sourceLocation)]

def read? {δ : Type} (f : Format δ) (d : δ) : Option Logging := do
  let r ← f.record? ["level", "format", "colored", "source_location"] d
  let level ← Format.required r "level" f.text?
  let format ← Format.defaulted r "format" .json fun d => (f.caseName? d).bind LogFormat.ofName?
  let colored ← Format.defaulted r "colored" false f.flag?
  let sourceLocation ← Format.defaulted r "source_location" false f.flag?
  some ⟨level, format, colored, sourceLocation⟩

end Logging

def Environment.read? {δ : Type} (f : Format δ) (d : δ) : Option Environment :=
  (f.caseName? d).bind ofName?

end Bearer.Settings
