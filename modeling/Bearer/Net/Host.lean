import Bearer.Text.Case
import Bearer.Text.Number
import Bearer.Text.Percent
import Bearer.Text.Split
import Bearer.Text.Unprinted
/-! Hosts: addresses of 32 and of 128 bits, and names. The names of the web's own schemes are read more
closely than those of other schemes: escapes are put in, letters fold to lower case, and a name that ends in
a number has to be an address. -/

namespace Bearer

inductive Host
  | name (cs : List Char)
  | v4 (n : Nat)
  /-- Eight groups of 16 bits. -/
  | v6 (groups : List Nat)
  deriving DecidableEq, Repr

namespace Host

/-! ## Addresses of 128 bits -/

/-- One to four hexadecimal digits. -/
def group? (cs : List Char) : Option Nat := if cs.isEmpty || 4 < cs.length then none else Hex.number? cs

/-- A number below 256 without a needless zero in front. -/
def octet? (cs : List Char) : Option Nat :=
  if 1 < cs.length ∧ cs.head? = some '0' then none else (Text.digits? cs).filter (· < 256)

/-- The two groups that four numbers with points between them stand for. -/
def quad? (cs : List Char) : Option (List Nat) :=
  match (cs.splitOn '.').mapM octet? with
  | some [a, b, c, d] => some [256 * a + b, 256 * c + d]
  | _ => none

/-- Groups of which the last may be written as four numbers. -/
def groups? : List (List Char) → Option (List Nat)
  | [] => some []
  | [last] =>
    match group? last with
    | some n => some [n]
    | none => quad? last
  | first :: rest => do
    let n ← group? first
    let ns ← groups? rest
    some (n :: ns)

def parts (cs : List Char) : List (List Char) := if cs.isEmpty then [] else cs.splitOn ':'

/-- Eight groups with colons between them. Two colons stand for one or more groups of zeros, once. -/
def v6? (cs : List Char) : Option (List Nat) :=
  match Text.splitFirst? [':', ':'] cs with
  | none => (groups? (parts cs)).filter fun ns => ns.length == 8
  | some (before, after) => do
    let front ← (parts before).mapM group?
    let back ← groups? (parts after)
    if front.length + back.length ≤ 7 then
      some (front ++ List.replicate (8 - front.length - back.length) 0 ++ back)
    else none

/-- An address between brackets, the first of which is read already. -/
def bracketed? (cs : List Char) : Option Host :=
  if cs.getLast? = some ']' then (v6? cs.dropLast).map v6 else none

/-! ## Addresses of 32 bits -/

/-- A number in base sixteen behind `0x`, in base eight behind a zero, or else in base ten. -/
def number? (cs : List Char) : Option Nat :=
  let read (base : Nat) (ds : List Char) : Option Nat :=
    ds.foldlM (fun n c => ((Hex.value? c).filter (· < base)).map (base * n + ·)) 0
  match cs with
  | [] => none
  | '0' :: 'x' :: ds => read 16 ds
  | '0' :: 'X' :: ds => read 16 ds
  | '0' :: d :: ds => read 8 (d :: ds)
  | ds => read 10 ds

/-- The parts between points, without an empty one at the end. -/
def labels (cs : List Char) : List (List Char) :=
  let ls := cs.splitOn '.'
  if ls.getLast? = some [] then ls.dropLast else ls

/-- One to four numbers, the last of which fills the bytes that are left. -/
def v4? (cs : List Char) : Option Nat := do
  let ns ← (labels cs).mapM number?
  let last ← ns.getLast?
  let rest := ns.dropLast
  if 4 < ns.length ∨ rest.any (256 ≤ ·) ∨ Nat.pow 256 (4 - rest.length) ≤ last then none
  else some (rest.foldl (fun n b => 256 * n + b) 0 * Nat.pow 256 (4 - rest.length) + last)

def endsInNumber (cs : List Char) : Bool :=
  match (labels cs).getLast? with
  | some last => !last.isEmpty && (last.all Char.isDigit || (number? last).isSome)
  | none => false

/-! ## Names -/

/-- Characters that separate the parts of a URL, or are hard to see, are in no name. -/
def isNameChar (c : Char) : Bool :=
  !(c ∈ ['\x00', ' ', '#', '/', ':', '<', '>', '?', '@', '[', '\\', ']', '^', '|'])

/-- In a domain no controls and percent signs are left either. -/
def isDomainChar (c : Char) : Bool := isNameChar c && 32 < c.toNat && c ≠ '%' && c.toNat ≠ 127

/-- What a character of a domain stands for: wide letters for narrow ones, marks that are not seen for
nothing. -/
def folded (c : Char) : List Char :=
  let n := c.toNat
  if n < 128 then [c.toLower]
  else if n = 0x3002 ∨ n = 0xff0e ∨ n = 0xff61 then ['.']
  else if n = 0x212a then ['k']
  else if 0xff01 ≤ n ∧ n ≤ 0xff5e then [(Char.ofNat (n - 0xfee0)).toLower]
  else if n = 0xad ∨ n = 0x34f ∨ n = 0x200b ∨ n = 0x2060 ∨ n = 0xfeff ∨ (0xfe00 ≤ n ∧ n ≤ 0xfe0f) then []
  else if Text.isBlank c then [' ']
  else [c]

/-- Characters beyond ASCII that are in no domain: controls, those of private use, and stand-ins. -/
def isForeign (c : Char) : Bool :=
  let n := c.toNat
  (128 ≤ n && n < 160) || (0x200e ≤ n && n ≤ 0x202e) || (0x2061 ≤ n && n ≤ 0x206f)
    || (0xe000 ≤ n && n ≤ 0xf8ff) || (0xfff9 ≤ n && n ≤ 0xffff) || 0xe0000 ≤ n

/-- The digits of a label that stands in ASCII for one beyond it: one number after another, each a row of
digits that ends at the first below its threshold. -/
def delta? (bias : Nat) : Nat → Nat → Nat → List Char → Option (Nat × List Char)
  | _, _, _, [] => none
  | k, weight, total, c :: cs =>
    let digit? : Option Nat :=
      if c.isLower then some (c.toNat - 97) else if c.isDigit then some (c.toNat - 22) else none
    let threshold := if k ≤ bias then 1 else min 26 (k - bias)
    match digit? with
    | none => none
    | some d =>
      let total := total + d * weight
      if d < threshold then some (total, cs) else delta? bias (k + 36) (weight * (36 - threshold)) total cs

/-- The next bias, from the size of the last step. -/
def adapted (step size : Nat) (isFirst : Bool) : Nat :=
  let step := if isFirst then step / 700 else step / 2
  let rec shrink : Nat → Nat → Nat → Nat
    | 0, _, k => k
    | fuel + 1, d, k => if 455 < d then shrink fuel (d / 35) (k + 36) else k + 36 * d / (d + 38)
  shrink 64 (step + step / size) 0

/-- Whether the rest of a label gives characters, so many of which are there already. -/
def decodes : Nat → Nat → Nat → Nat → Nat → List Char → Bool
  | 0, _, _, _, _, _ => false
  | _, _, _, _, _, [] => true
  | fuel + 1, code, place, bias, size, cs =>
    match delta? bias 36 1 0 cs with
    | none => false
    | some (step, rest) =>
      let total := place + step
      let code := code + total / (size + 1)
      code.isValidChar && !isForeign (Char.ofNat code)
        && decodes fuel code (total % (size + 1) + 1) (adapted step (size + 1) (place == 0)) (size + 1) rest

/-- Whether a label is plain and begins with no combining mark, or stands for one with characters beyond
ASCII. -/
def isLabel (cs : List Char) : Bool :=
  match Text.afterFront? "xn--".toList cs with
  | none => !(cs.head?.any Text.isUnprinted)
  | some rest =>
    let basic := ((rest.reverse.dropWhile (· ≠ '-')).drop 1).reverse
    let coded := rest.drop (if rest.contains '-' then basic.length + 1 else 0)
    !coded.isEmpty && decodes (coded.length + 1) 128 0 72 basic.length coded

def domain? (cs : List Char) : Option (List Char) := do
  let text ← Percent.text? cs
  let cs := text.toList.flatMap folded
  if cs.isEmpty || cs.any isForeign || !cs.all isDomainChar || !(cs.splitOn '.').all isLabel then none
  else some cs

/-- The host of a URL of the web. -/
def ofWeb? : List Char → Option Host
  | '[' :: rest => bracketed? rest
  | cs => do
    let cs ← domain? cs
    if endsInNumber cs then (v4? cs).map v4 else some (name cs)

/-- The host of any other URL, which may be empty. -/
def ofText? : List Char → Option Host
  | '[' :: rest => bracketed? rest
  | cs => if cs.all isNameChar then some (name cs) else none

def isEmpty : Host → Bool
  | name cs => cs.isEmpty
  | _ => false

def text : Host → String
  | name cs => String.ofList cs
  | v4 n => String.intercalate "." ([n / 16777216, n / 65536 % 256, n / 256 % 256, n % 256].map toString)
  | v6 [0, 0, 0, 0, 0, 0, 0, n] => "::" ++ String.ofList (if n = 0 then [] else Nat.toDigits 16 n)
  | v6 groups => String.intercalate ":" (groups.map fun n => String.ofList (Nat.toDigits 16 n))

example : v6? "1::2:3.4.5.6".toList = some [1, 0, 0, 0, 0, 2, 772, 1286] := by decide +kernel
example : v6? "1:2".toList = none ∧ v6? "::1::2".toList = none ∧ v6? "::1.2.3".toList = none := by
  decide +kernel
example : ofWeb? "0x7f.1".toList = some (v4 2130706433) ∧ ofWeb? "1.2.3.4.5".toList = none := by
  decide +kernel
example : ofWeb? "Exa%6Dple".toList = some (name "example".toList) := by decide +kernel

end Host

end Bearer
