import Bearer.Decimal.Reader
import Bearer.Log.Event
import Bearer.Log.Pattern
import Bearer.Text.Case
import Bearer.Text.Number
import Bearer.Text.Split
/-! Which events are written. A filter is a list of directives, each a threshold for the targets that begin
with a text, and perhaps only for the events with some field. For an event the directive with the longest
such text decides, of these one about a field, and of equals the last. `governing?_mem` and
`length_le_of_governing?` say so. -/

namespace Bearer.Log

structure Directive where
  /-- What targets begin with; the empty text for all targets. -/
  target : String
  /-- The field that an event must have. -/
  field : Option String
  /-- The mildest severity written, `none` to write nothing. -/
  threshold : Option Level
  deriving DecidableEq, Repr

namespace Directive

/-- A number from 0, for nothing, to 5, or a name in any case. -/
def threshold? (s : String) : Option (Option Level) :=
  match Text.unsigned? 64 s with
  | some 0 => some none
  | some n => (Level.ofRank? n).map some
  | none =>
    let name := Text.lowerAscii s
    if name = "off" then some none
    else (Level.all.find? fun l => Text.lowerAscii l.name == name).map some

/-- A threshold where one is written, else the mildest severity. -/
def written? (cs : List Char) : Option (Option Level) :=
  if cs.isEmpty then some (some .trace) else threshold? (String.ofList cs)

/-- A threshold alone, or a target of which everything is written. -/
def bare (s : String) : Directive :=
  match threshold? s with
  | some t => ⟨"", none, t⟩
  | none => ⟨s, none, some .trace⟩

def isTargetStart (c : Char) : Bool := c == '-' || c == ':' || c == '_' || Text.isLetterOrDigit c

/-- What a directive in brackets is about. -/
inductive Scope
  /-- Events with a field. -/
  | field (name : String)
  /-- Spans, of which there are none here. -/
  | span

/-- Whether a field can be compared with a text: with a truth value, a number or a pattern. -/
def isValue (s : String) : Bool :=
  s == "true" || s == "false" || (Text.unsigned? 64 s).isSome || (Text.signed? 64 s).isSome
    || (Binary64.parse? s).isSome || Pattern.isWellFormed s

/-- A field and perhaps its value. Only spans have values. -/
def fieldScope? (isNamed : Bool) (cs : List Char) : Option Scope :=
  match cs.splitOn '=' with
  | [] => none
  | [name] => if name.isEmpty then none else some (if isNamed then .span else .field (String.ofList name))
  | _ :: value :: _ => if isValue (String.ofList value) then some .span else none

/-- What stands in brackets, the first of which is read already, and what follows them. -/
def scope? (cs : List Char) : Option (Scope × List Char) :=
  let name := cs.takeWhile fun c => c ≠ ']' ∧ c ≠ '\x7b'
  match cs.drop name.length with
  | ']' :: rest => some (.span, rest)
  | '\x7b' :: rest =>
    let field := rest.takeWhile (· ≠ '\x7d')
    match rest.drop field.length with
    | '\x7d' :: ']' :: rest => (fieldScope? (!name.isEmpty) field).map fun s => (s, rest)
    | _ => none
  | _ => none

/-- Reads one directive. One about spans gives nothing here. Blanks around a directive are passed over to
find its parts, but count to the parts. -/
def parse? (s : String) : Option (List Directive) :=
  let inner := (Text.trim s).toList
  let isFlush := inner.isPrefixOf s.toList
  let level? (cs : List Char) : Option (Option Level) :=
    if isFlush then written? (cs ++ s.toList.drop inner.length) else none
  let name := inner.takeWhile fun c => c ≠ '=' ∧ c ≠ '['
  if !(inner.head?.any fun c => c == '[' || isTargetStart c) then none
  else
    match inner.drop name.length with
    | '[' :: rest => do
      let (scope, rest) ← scope? rest
      let t ← match rest with
        | [] => some (some .trace)
        | '=' :: level => level? level
        | _ => none
      match scope with
      | .field f => some (if isFlush then [⟨String.ofList name, some f, t⟩] else [])
      | .span => some []
    | '=' :: level => (level? level).map fun t => [⟨String.ofList name, none, t⟩]
    | _ => some [bare s]

def admits (d : Directive) (l : Level) : Bool := d.threshold.any fun t => l.rank ≤ t.rank

def covers (d : Directive) (e : Event) : Bool :=
  d.target.toList.isPrefixOf e.target.toList && d.field.all fun f => e.names.contains f

/-- Whether another directive that covers the same event goes before this one or is its equal. -/
def yields (d e : Directive) : Bool :=
  d.target.length < e.target.length || (d.target.length == e.target.length &&
    match d.field, e.field with
    | none, _ => true
    | some _, none => false
    | some f, some g => decide (f ≤ g))

theorem length_le_of_yields {d e : Directive} (h : d.yields e = true) :
    d.target.length ≤ e.target.length := by
  simp only [yields, Bool.or_eq_true, Bool.and_eq_true, decide_eq_true_eq, beq_iff_eq] at h
  omega

theorem length_le_of_not_yields {d e : Directive} (h : ¬ d.yields e = true) :
    e.target.length ≤ d.target.length := by
  simp only [yields, Bool.or_eq_true, decide_eq_true_eq, not_or] at h
  omega

end Directive

abbrev Filter := List Directive

namespace Filter

/-- Directives with commas between them. One that cannot be read spoils the filter. -/
def parse? (s : String) : Option Filter :=
  let parts := (s.toList.splitOn ',').filter (!·.isEmpty)
  (parts.mapM fun part => Directive.parse? (String.ofList part)).map List.flatten

/-- The directive that goes before the others, the later of equals. -/
def foremost? : Filter → Option Directive
  | [] => none
  | d :: rest =>
    match foremost? rest with
    | some e => if d.yields e then some e else some d
    | none => some d

def governing? (f : Filter) (e : Event) : Option Directive := foremost? (f.filter fun d => d.covers e)

/-- Where no directive covers the event nothing is written. -/
def passes (f : Filter) (e : Event) : Bool := (f.governing? e).any fun d => d.admits e.level

def standard : Filter := [⟨"", none, some .info⟩]

/-- The first of two texts that is a filter, or else the standard one. -/
def choose (asked : Option String) (configured : String) : Filter :=
  match asked.bind parse? with
  | some f => f
  | none => (parse? configured).getD standard

theorem foremost?_mem {f : Filter} {d : Directive} (h : foremost? f = some d) : d ∈ f := by
  induction f generalizing d with
  | nil => simp [foremost?] at h
  | cons a f ih =>
    simp only [foremost?] at h
    split at h
    · rename_i e he
      split at h
      · cases h; exact List.mem_cons_of_mem _ (ih he)
      · cases h; exact List.mem_cons_self
    · cases h; exact List.mem_cons_self

theorem length_le_of_foremost? {f : Filter} {d e : Directive} (h : foremost? f = some d) (he : e ∈ f) :
    e.target.length ≤ d.target.length := by
  induction f generalizing d with
  | nil => simp at he
  | cons a f ih =>
    simp only [foremost?] at h
    rcases List.mem_cons.1 he with rfl | hf
    · split at h
      · split at h <;> cases h
        · rename_i hy
          exact Directive.length_le_of_yields hy
        · exact Nat.le_refl _
      · cases h; exact Nat.le_refl _
    · split at h
      · rename_i b hb
        have := ih hb hf
        split at h <;> cases h
        · exact this
        · rename_i hy
          exact Nat.le_trans this (Directive.length_le_of_not_yields hy)
      · rename_i hn
        cases f with
        | nil => simp at hf
        | cons b f =>
          simp only [foremost?] at hn
          split at hn
          · split at hn <;> cases hn
          · cases hn

theorem governing?_mem {f : Filter} {e : Event} {d : Directive} (h : f.governing? e = some d) :
    d ∈ f ∧ d.covers e = true :=
  List.mem_filter.1 (foremost?_mem h)

theorem length_le_of_governing? {f : Filter} {ev : Event} {d e : Directive}
    (h : f.governing? ev = some d) (he : e ∈ f) (hc : e.covers ev = true) :
    e.target.length ≤ d.target.length :=
  length_le_of_foremost? h (List.mem_filter.2 ⟨he, hc⟩)

end Filter

end Bearer.Log
