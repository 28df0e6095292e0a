/-! JSON values as a text states them: numbers keep their digits, objects the order and repetition of
their members. -/

namespace Bearer

/-- A written number: its sign, the digits before the point, those after it, and the power of ten. -/
structure Numeral where
  negative : Bool
  whole : Nat
  fraction : Option (List Char)
  exponent : Option Int
  deriving DecidableEq, Repr

namespace Numeral

def ofNat (n : Nat) : Numeral := ⟨false, n, none, none⟩

def ofInt (i : Int) : Numeral := ⟨decide (i < 0), i.natAbs, none, none⟩

/-- The number of a text without point and exponent. Minus zero is none. -/
def toInt? (n : Numeral) : Option Int :=
  match n.fraction, n.exponent with
  | none, none =>
    if n.negative then (if n.whole = 0 then none else some (-(n.whole : Int))) else some n.whole
  | _, _ => none

theorem toInt?_ofInt (i : Int) : (ofInt i).toInt? = some i := by
  unfold ofInt toInt?
  simp only [decide_eq_true_eq]
  split
  · rw [if_neg (by omega)]
    exact congrArg some (by omega)
  · exact congrArg some (by omega)

theorem toInt?_ofNat (n : Nat) : (ofNat n).toInt? = some (n : Int) := rfl

end Numeral

inductive Json
  | null
  | bool (b : Bool)
  | num (n : Numeral)
  | str (s : String)
  | arr (items : List Json)
  | obj (members : List (String × Json))
  /-- Something that may be passed over but not kept: text, or an object with a key, that is not made
  of Unicode characters. Whoever tries to keep it may read it to its end before he gives it up. -/
  | garbled (isReadThrough : Bool)
  deriving BEq, Repr, Inhabited

namespace Json

def ofNat (n : Nat) : Json := num (Numeral.ofNat n)

def ofInt (i : Int) : Json := num (Numeral.ofInt i)

/-- How many arrays and objects stand around the innermost value, the value itself included. -/
def depth : Json → Nat
  | arr items => 1 + listDepth items
  | obj members => 1 + memberDepth members
  | _ => 0
where
  listDepth : List Json → Nat
    | [] => 0
    | x :: xs => max (depth x) (listDepth xs)
  memberDepth : List (String × Json) → Nat
    | [] => 0
    | (_, v) :: ms => max (depth v) (memberDepth ms)

def text? : Json → Option String
  | str s => some s
  | _ => none

def bool? : Json → Option Bool
  | bool b => some b
  | _ => none

/-- A whole number within bounds, both included. -/
def int? (low high : Int) : Json → Option Int
  | num n => n.toInt?.bind fun i => if low ≤ i ∧ i ≤ high then some i else none
  | _ => none

def nat? (high : Nat) (j : Json) : Option Nat := (j.int? 0 high).map Int.toNat

/-- `null` as absence. -/
def nullable {α : Type} (read : Json → Option α) : Json → Option (Option α)
  | null => some none
  | j => (read j).map some

/-- The name of a case without contents: its text, or an object that pairs it with `null`. -/
def caseName? : Json → Option String
  | str s => some s
  | obj [(s, null)] => some s
  | _ => none

end Json

end Bearer
