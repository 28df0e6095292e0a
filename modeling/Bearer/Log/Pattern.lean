import Bearer.Text.Hex
import Bearer.Text.Letters
/-! Regular expressions, as far as it has to be known whether a text is one: groups and sets are closed, a
repetition has something to repeat, and every escape has a meaning. -/

namespace Bearer.Log.Pattern

/-- The scalar that so many hexadecimal digits at the front name. -/
def scalar? (size : Nat) (cs : List Char) : Option (Char × List Char) := do
  let n ← Hex.number? (cs.take size)
  if cs.length < size ∨ ¬ n.isValidChar then none else some (Char.ofNat n, cs.drop size)

/-- What follows a backslash: a character, or a set of characters without one of them. -/
def escape? : List Char → Option (Option Char × List Char)
  | [] => none
  | c :: rest =>
    if c ∈ ['d', 'D', 's', 'S', 'w', 'W'] then some (none, rest)
    else if c = 'p' ∨ c = 'P' then
      match rest with
      | name :: rest =>
        if name.toLower ∈ ['c', 'l', 'm', 'n', 'p', 's', 'z'] then some (none, rest) else none
      | [] => none
    else if c = 'x' then (scalar? 2 rest).map fun (c, rest) => (some c, rest)
    else if c = 'u' then (scalar? 4 rest).map fun (c, rest) => (some c, rest)
    else if c = 'U' then (scalar? 8 rest).map fun (c, rest) => (some c, rest)
    else
      match [('a', '\x07'), ('f', '\x0c'), ('t', '\t'), ('n', '\n'), ('r', '\r'), ('v', '\x0b')].lookup c with
      | some named => some (some named, rest)
      | none =>
        if c.isAlphanum || c == '<' || c == '>' || 128 ≤ c.toNat then none else some (some c, rest)

/-- One member of a set. -/
def member? : List Char → Option (Option Char × List Char)
  | [] => none
  | '\\' :: rest => escape? rest
  | c :: rest => some (some c, rest)

def classNames : List String :=
  ["alnum", "alpha", "ascii", "blank", "cntrl", "digit", "graph", "lower", "print", "punct", "space",
    "upper", "word", "xdigit"]

/-- A named set inside a set, behind its opening bracket. -/
def named? (cs : List Char) : Option (List Char) :=
  match cs with
  | ':' :: rest =>
    let rest := match rest with
      | '^' :: rest => rest
      | rest => rest
    let name := rest.takeWhile (· ≠ ':')
    match rest.drop name.length with
    | ':' :: ']' :: rest => if String.ofList name ∈ classNames then some rest else none
    | _ => none
  | _ => none

/-- The start of a set: hyphens and a closing bracket stand for themselves there. -/
def opened (cs : List Char) : List Char :=
  let cs := match cs with
    | '^' :: rest => rest
    | rest => rest
  match cs with
  | ']' :: rest => rest
  | cs => cs.dropWhile (· == '-')

/-- What follows a set that is `depth` sets deep in another. -/
def afterSet? : Nat → Nat → List Char → Option (List Char)
  | 0, _, _ => none
  | fuel + 1, depth, cs =>
    match cs with
    | ']' :: rest => if depth = 0 then some rest else afterSet? fuel (depth - 1) rest
    | '[' :: rest =>
      match named? rest with
      | some rest => afterSet? fuel depth rest
      | none => afterSet? fuel (depth + 1) (opened rest)
    | '&' :: '&' :: rest => afterSet? fuel depth rest
    | '-' :: '-' :: rest => afterSet? fuel depth rest
    | '~' :: '~' :: rest => afterSet? fuel depth rest
    | cs =>
      match member? cs with
      | none => none
      | some (_, '-' :: ']' :: rest) => afterSet? fuel depth ('-' :: ']' :: rest)
      | some (_, '-' :: '-' :: rest) => afterSet? fuel depth ('-' :: '-' :: rest)
      | some (low, '-' :: rest) =>
        match low, member? rest with
        | some low, some (some high, rest) => if low ≤ high then afterSet? fuel depth rest else none
        | _, _ => none
      | some (_, rest) => afterSet? fuel depth rest

/-- Settings, each once, behind at most one minus sign that does not end them. -/
def areFlags (cs : List Char) : Bool :=
  cs.all (fun c => c ∈ ['i', 'm', 's', 'U', 'u', 'x', 'R', '-']) && decide cs.Nodup
    && !cs.isEmpty && cs.getLast? != some '-'

/-- Whether a group opens, and what follows. -/
def group? (cs : List Char) : Option (Bool × List Char) :=
  let named (cs : List Char) : Option (Bool × List Char) :=
    let name := cs.takeWhile (· ≠ '>')
    let isPart (c : Char) : Bool := c ∈ ['_', '.', '[', ']'] || Text.isLetterOrDigit c
    match name, cs.drop name.length with
    | first :: _, '>' :: rest =>
      if name.all isPart && !(first.isDigit || first ∈ ['.', '[', ']']) then some (true, rest) else none
    | _, _ => none
  match cs with
  | '?' :: 'P' :: '<' :: rest => named rest
  | '?' :: '<' :: rest => named rest
  | '?' :: ':' :: rest => some (true, rest)
  | '?' :: rest =>
    let flags := rest.takeWhile fun c => c ≠ ':' ∧ c ≠ ')'
    match areFlags flags, rest.drop flags.length with
    | true, ':' :: rest => some (true, rest)
    | true, ')' :: rest => some (false, rest)
    | _, _ => none
  | cs => some (true, cs)

/-- Reads on inside so many groups, behind something to repeat or not. Words have no edges here. -/
def closes : Nat → Nat → Bool → List Char → Bool
  | 0, _, _, _ => false
  | fuel + 1, groups, repeats, cs =>
    match cs with
    | [] => groups == 0
    | '(' :: rest =>
      match group? rest with
      | some (opens, rest) => closes fuel (if opens then groups + 1 else groups) false rest
      | none => false
    | ')' :: rest => groups ≠ 0 && closes fuel (groups - 1) true rest
    | '|' :: rest => closes fuel groups false rest
    | '[' :: rest =>
      match afterSet? (rest.length + 1) 0 (opened rest) with
      | some rest => closes fuel groups true rest
      | none => false
    | '\x7b' :: _ => false
    | '\\' :: 'A' :: rest => closes fuel groups true rest
    | '\\' :: 'z' :: rest => closes fuel groups true rest
    | '\\' :: rest =>
      match escape? rest with
      | some (_, rest) => closes fuel groups true rest
      | none => false
    | c :: rest =>
      if c = '*' ∨ c = '+' ∨ c = '?' then
        repeats && closes fuel groups true (match rest with
          | '?' :: rest => rest
          | rest => rest)
      else closes fuel groups true rest

def isWellFormed (s : String) : Bool := closes (s.length + 1) 0 false s.toList

example : isWellFormed "(a|b)*?[^]x-z]\\d" = true := by decide +kernel
example : isWellFormed "a)" = false ∧ isWellFormed "*" = false ∧ isWellFormed "[b-a]" = false := by
  decide +kernel

end Bearer.Log.Pattern
