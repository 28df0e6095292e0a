import Bearer.Decimal.Scaled
import Bearer.Decimal.Shortest
import Bearer.Json.Value
/-! Values that are built and kept whatever their shape. Keys are sorted and the last of equal ones
counts, a number is a whole one of 64 bits or a binary one, and a value nests at most 127 deep. -/

namespace Bearer

/-- The text of a binary number: positional from `1e-5` up to `1e16`, with an exponent beyond, and
never without a point or an exponent. -/
def Numeral.ofBinary? : Binary64 → Option Numeral
  | .finite negative m q =>
    let (k, e) := Binary64.shortest m q
    let ds := (toString k).toList
    let size : Int := ds.length
    let point := size + e
    let value (ds : List Char) : Nat := ds.foldl (fun n c => 10 * n + (c.toNat - 48)) 0
    some <|
      if k = 0 then ⟨negative, 0, some ['0'], none⟩
      else if 0 ≤ e ∧ point ≤ 16 then ⟨negative, k * Nat.pow 10 e.toNat, some ['0'], none⟩
      else if 0 < point ∧ point ≤ 16 then
        ⟨negative, value (ds.take point.toNat), some (ds.drop point.toNat), none⟩
      else if -5 < point ∧ point ≤ 0 then
        ⟨negative, 0, some (List.replicate (-point).toNat '0' ++ ds), none⟩
      else
        ⟨negative, value (ds.take 1), if ds.length = 1 then none else some (ds.drop 1),
          some (point - 1)⟩
  | _ => none

def digitsOf (cs : List Char) : List Nat := cs.map fun c => c.toNat - 48

def Numeral.toBinary? (n : Numeral) : Option Binary64 :=
  Binary64.ofDigits? n.negative (digitsOf (toString n.whole).toList) (digitsOf (n.fraction.getD []))
    (n.exponent.getD 0)

/-- A whole number that fits 64 bits stays; any other is a binary one, if that is finite. -/
def Numeral.canonical? (n : Numeral) : Option Numeral :=
  match n.toInt? with
  | some i =>
    if -9223372036854775808 ≤ i ∧ i ≤ 18446744073709551615 then some (Numeral.ofInt i)
    else n.toBinary?.bind Numeral.ofBinary?
  | none => n.toBinary?.bind Numeral.ofBinary?

/-- Whether an attempt to keep a number ends behind it. A power of ten beyond 31 bits is noticed at the digit
that makes it so. -/
def Numeral.isPassed (n : Numeral) : Bool := n.canonical?.isSome || n.exponent.getD 0 / 10 ≤ 2147483647

namespace Json

/-- Sets a key among sorted ones. -/
def setSorted (key : String) (value : Json) : List (String × Json) → List (String × Json)
  | [] => [(key, value)]
  | (k, v) :: rest =>
    if key < k then (key, value) :: (k, v) :: rest
    else if key = k then (key, value) :: rest
    else (k, v) :: setSorted key value rest

mutual

def normal? : Json → Option Json
  | num n => n.canonical?.map num
  | arr items => (normalItems? items).map arr
  | obj members => (normalMembers? members).map fun ms =>
    obj (ms.foldl (fun sorted (k, v) => setSorted k v sorted) [])
  | garbled _ => none
  | j => some j

def normalItems? : List Json → Option (List Json)
  | [] => some []
  | x :: xs => do
    let x ← normal? x
    let xs ← normalItems? xs
    some (x :: xs)

def normalMembers? : List (String × Json) → Option (List (String × Json))
  | [] => some []
  | (k, v) :: ms => do
    let v ← normal? v
    let ms ← normalMembers? ms
    some ((k, v) :: ms)

end

/-- How deep values may nest. -/
def mostNested : Nat := 127

/-- The value as it is kept when it stands inside `outer` arrays and objects. -/
def built? (outer : Nat) (j : Json) : Option Json :=
  if outer + j.depth ≤ mostNested then j.normal? else none

def isKept (outer : Nat) (j : Json) : Bool := (j.built? outer).isSome

/-! Trying to keep a value. If that fails, the value is given up where it fails, and only what fails at its
very end leaves the reader behind it: an array or object whose last part is such a value ends well, too. -/

mutual

/-- Whether an attempt to keep a value that stands inside `outer` arrays and objects ends behind it. -/
def isPassed (outer : Nat) : Json → Bool
  | num n => n.isPassed
  | arr items => outer < mostNested && areItemsPassed (outer + 1) items
  | obj members => outer < mostNested && areMembersPassed (outer + 1) members
  | garbled isReadThrough => isReadThrough
  | _ => true

def areItemsPassed (outer : Nat) : List Json → Bool
  | [] => true
  | [x] => isPassed outer x
  | x :: xs => isKept outer x && areItemsPassed outer xs

def areMembersPassed (outer : Nat) : List (String × Json) → Bool
  | [] => true
  | [(_, v)] => isPassed outer v
  | (_, v) :: ms => isKept outer v && areMembersPassed outer ms

end

end Json

end Bearer
