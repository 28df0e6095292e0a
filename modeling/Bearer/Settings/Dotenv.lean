import Bearer.Settings.Variables
import Bearer.Text.Letters
/-! A file of assignments to environment variables. A quoted value may go over several lines, a dollar sign
brings in another variable, and a variable that is set already keeps its value. Reading ends at the first
line that is not in order; what stands before it counts. -/

namespace Bearer.Settings.Dotenv

/-! Lines: where a quote is open at the end of a line, the next one belongs to it. -/

inductive Scan
  | plain
  /-- Behind a blank, where a comment may begin. -/
  | blank
  | escape
  | double
  | doubleEscape
  | single
  | singleEscape
  deriving DecidableEq, Repr

def Scan.opened : Char → Scan
  | '\\' => escape
  | '"' => double
  | '\'' => single
  | _ => plain

def Scan.next (s : Scan) (c : Char) : Scan :=
  match s with
  | plain => if Text.isBlank c && c ≠ '\n' && c ≠ '\r' then blank else opened c
  | blank => opened c
  | escape => plain
  | double => if c = '\\' then doubleEscape else if c = '"' then plain else double
  | doubleEscape => double
  | single => if c = '\\' then singleEscape else if c = '\'' then plain else single
  | singleEscape => single

/-- The state at the end of a line, or the part of the line before a comment. -/
def scan : Scan → List Char → Except (List Char) Scan
  | s, [] => .ok s
  | .blank, '#' :: _ => .error []
  | s, c :: cs =>
    match scan (s.next c) cs with
    | .error before => .error (c :: before)
    | .ok last => .ok last

/-- The lines of a text, each with its end. -/
def rawLines : List Char → List (List Char)
  | [] => []
  | '\n' :: cs => ['\n'] :: rawLines cs
  | c :: cs =>
    match rawLines cs with
    | [] => [[c]]
    | l :: ls => (c :: l) :: ls

def withoutEnd (line : List Char) : List Char :=
  match line.reverse with
  | '\n' :: '\r' :: rest => rest.reverse
  | '\n' :: rest => rest.reverse
  | _ => line

def startsComment (cs : List Char) : Bool := (cs.dropWhile Text.isBlank).head? == some '#'

/-- Joins the lines that a quote holds together; `none` stands for one that is never finished. -/
def joined (begun : List Char) (s : Scan) : List (List Char) → List (Option (List Char))
  | [] => if s = .plain then [] else [none]
  | l :: ls =>
    let line := begun ++ l
    if startsComment line then joined [] .plain ls
    else
      match scan s l with
      | .error before => some (begun ++ before) :: joined [] .plain ls
      | .ok .plain => some (withoutEnd line) :: joined [] .plain ls
      | .ok s => joined line s ls

/-! Values. -/

inductive Phase
  | bare
  | escaped
  | quoted
  /-- Behind the value, where only a comment may follow. -/
  | behind
  /-- In a name after a dollar sign. -/
  | name (cs : List Char)
  /-- In a name in braces. -/
  | braced (cs : List Char)

/-- The value that a text assigns. In double quotes (`double`) blanks and single quotes are as any other
character. -/
def value? (look : List Char → List Char) : Phase → Bool → List Char → Option (List Char)
  | phase, double, [] =>
    match phase with
    | .quoted => none
    | .braced _ => none
    | .name n => if double then none else some (look n)
    | _ => if double then none else some []
  | .behind, double, c :: cs =>
    if c = ' ' ∨ c = '\t' then value? look .behind double cs else if c = '#' then some [] else none
  | .escaped, double, c :: cs =>
    if ['\\', '\'', '"', '$', ' '].contains c then (value? look .bare double cs).map (c :: ·)
    else if c = 'n' then (value? look .bare double cs).map ('\n' :: ·)
    else none
  | .quoted, double, c :: cs =>
    if c = '\'' then value? look .bare double cs
    else (value? look .quoted double cs).map (c :: ·)
  | .name n, double, c :: cs =>
    if Text.isLetterOrDigit c then value? look (.name (n ++ [c])) double cs
    else if c = '\x7b' ∧ n = [] then value? look (.braced []) double cs
    else if c = '$' then (value? look (.name []) double cs).map (look n ++ ·)
    else (value? look .bare double cs).map fun rest => look n ++ c :: rest
  | .braced n, double, c :: cs =>
    if c = '\x7d' then (value? look .bare double cs).map (look n ++ ·)
    else value? look (.braced (n ++ [c])) double cs
  | .bare, double, c :: cs =>
    if c = '$' then value? look (.name []) double cs
    else if c = '"' then value? look .bare (!double) cs
    else if c = '\\' then value? look .escaped double cs
    else if double then (value? look .bare double cs).map (c :: ·)
    else if c = '\'' then value? look .quoted double cs
    else if c = ' ' ∨ c = '\t' then value? look .behind double cs
    else (value? look .bare double cs).map (c :: ·)

/-! Assignments. -/

def skipBlanks (cs : List Char) : List Char := cs.dropWhile Text.isBlank

def key? (cs : List Char) : Option (List Char × List Char) :=
  if cs.head?.any fun c => c.isAlpha || c == '_' then
    let isPart (c : Char) : Bool := c.isAlphanum || c == '_' || c == '.'
    some (cs.takeWhile isPart, cs.dropWhile isPart)
  else none

/-- What stands behind an equals sign. -/
def afterEquals? : List Char → Option (List Char)
  | '=' :: rest => some rest
  | _ => none

/-- The key of an assignment and the text behind its equals sign. The word `export` may stand in front. -/
def split? (cs : List Char) : Option (List Char × List Char) := do
  let (key, rest) ← key? cs
  match afterEquals? (skipBlanks rest) with
  | some rest => some (key, rest)
  | none =>
    if key = "export".toList then
      let (key, rest) ← key? (skipBlanks rest)
      let rest ← afterEquals? (skipBlanks rest)
      some (key, rest)
    else none

/-- The assignment on a line, if it holds one; a line that is not in order is an error. -/
def assignment (look : List Char → List Char) (line : List Char) :
    Except Unit (Option (String × String)) :=
  let cs := skipBlanks (line.reverse.dropWhile Text.isBlank).reverse
  if cs.isEmpty || cs.head? == some '#' then .ok none
  else
    match split? cs with
    | none => .error ()
    | some (key, rest) =>
      let rest := skipBlanks rest
      if rest.isEmpty || rest.head? == some '#' then .ok (some (String.ofList key, ""))
      else
        match value? look .bare false rest with
        | none => .error ()
        | some v => .ok (some (String.ofList key, String.ofList v))

/-- Works through the lines: `set` are the variables, `read` what the file said so far. -/
def assign (set read : Variables) : List (Option (List Char)) → Variables
  | [] => set
  | none :: _ => set
  | some line :: rest =>
    let look (name : List Char) : List Char :=
      let name := String.ofList name
      match set.get? name with
      | some v => v.toList
      | none => ((read.get? name).getD "").toList
    match assignment look line with
    | .error () => set
    | .ok none => assign set read rest
    | .ok (some (key, v)) =>
      let set := if (set.get? key).isSome then set else set.insert key v
      assign set (read.insert key v) rest

/-- The variables after a file of assignments was read. A byte order mark in front is passed over. -/
def load (text : String) (v : Variables) : Variables :=
  let cs := match text.toList with
    | '\ufeff' :: rest => rest
    | cs => cs
  assign v Table.empty (joined [] .plain (rawLines cs))

end Bearer.Settings.Dotenv
