import Bearer.Text.Utf8
/-! Forms of a word: a part of it or all, with capitals or not, between texts. -/

namespace Bearer.Packed.Brotli

inductive Change
  | whole
  | withoutFirst (n : Nat)
  | withoutLast (n : Nat)
  /-- The first letter as a capital. -/
  | capital
  | capitals

/-- A letter as a capital, roughly: of ASCII the letters, of the other characters one bit or two. -/
def capitalOf : List UInt8 → List UInt8 × List UInt8
  | [] => ([], [])
  | a :: rest =>
    if a < 0xc0 then ([if 97 ≤ a ∧ a ≤ 122 then a ^^^ 32 else a], rest)
    else if a < 0xe0 then (a :: (rest.take 1).map (· ^^^ 32), rest.drop 1)
    else (a :: rest.take 1 ++ ((rest.drop 1).take 1).map (· ^^^ 5), rest.drop 2)

/-- Letters as capitals, so many of them. -/
def capitalsOf : Nat → List UInt8 → List UInt8
  | 0, bs => bs
  | n + 1, bs =>
    match capitalOf bs with
    | (done, rest) => done ++ capitalsOf n rest

def Change.apply (c : Change) (bs : List UInt8) : List UInt8 :=
  match c with
  | whole => bs
  | withoutFirst n => bs.drop n
  | withoutLast n => bs.take (bs.length - n)
  | capital => capitalsOf 1 bs
  | capitals => capitalsOf bs.length bs

/-- What stands in front of the word, what is done to it, and what stands behind it. -/
def forms : List (String × Change × String) := [
  ("", .whole, ""), ("", .whole, " "), (" ", .whole, " "), ("", .withoutFirst 1, ""),
  ("", .capital, " "), ("", .whole, " the "), (" ", .whole, ""), ("s ", .whole, " "),
  ("", .whole, " of "), ("", .capital, ""), ("", .whole, " and "), ("", .withoutFirst 2, ""),
  ("", .withoutLast 1, ""), (", ", .whole, " "), ("", .whole, ", "), (" ", .capital, " "),
  ("", .whole, " in "), ("", .whole, " to "), ("e ", .whole, " "), ("", .whole, "\""),
  ("", .whole, "."), ("", .whole, "\">"), ("", .whole, "\n"), ("", .withoutLast 3, ""),
  ("", .whole, "]"), ("", .whole, " for "), ("", .withoutFirst 3, ""), ("", .withoutLast 2, ""),
  ("", .whole, " a "), ("", .whole, " that "), (" ", .capital, ""), ("", .whole, ". "),
  (".", .whole, ""), (" ", .whole, ", "), ("", .withoutFirst 4, ""), ("", .whole, " with "),
  ("", .whole, "\x27"), ("", .whole, " from "), ("", .whole, " by "), ("", .withoutFirst 5, ""),
  ("", .withoutFirst 6, ""), (" the ", .whole, ""), ("", .withoutLast 4, ""),
  ("", .whole, ". The "), ("", .capitals, ""), ("", .whole, " on "), ("", .whole, " as "),
  ("", .whole, " is "), ("", .withoutLast 7, ""), ("", .withoutLast 1, "ing "),
  ("", .whole, "\n\t"), ("", .whole, ":"), (" ", .whole, ". "), ("", .whole, "ed "),
  ("", .withoutFirst 9, ""), ("", .withoutFirst 7, ""), ("", .withoutLast 6, ""),
  ("", .whole, "("), ("", .capital, ", "), ("", .withoutLast 8, ""), ("", .whole, " at "),
  ("", .whole, "ly "), (" the ", .whole, " of "), ("", .withoutLast 5, ""),
  ("", .withoutLast 9, ""), (" ", .capital, ", "), ("", .capital, "\""), (".", .whole, "("),
  ("", .capitals, " "), ("", .capital, "\">"), ("", .whole, "=\""), (" ", .whole, "."),
  (".com/", .whole, ""), (" the ", .whole, " of the "), ("", .capital, "\x27"),
  ("", .whole, ". This "), ("", .whole, ","), (".", .whole, " "), ("", .capital, "("),
  ("", .capital, "."), ("", .whole, " not "), (" ", .whole, "=\""), ("", .whole, "er "),
  (" ", .capitals, " "), ("", .whole, "al "), (" ", .capitals, ""), ("", .whole, "=\x27"),
  ("", .capitals, "\""), ("", .capital, ". "), (" ", .whole, "("), ("", .whole, "ful "),
  (" ", .capital, ". "), ("", .whole, "ive "), ("", .whole, "less "), ("", .capitals, "\x27"),
  ("", .whole, "est "), (" ", .capital, "."), ("", .capitals, "\">"), (" ", .whole, "=\x27"),
  ("", .capital, ","), ("", .whole, "ize "), ("", .capitals, "."), ("\u00a0", .whole, ""),
  (" ", .whole, ","), ("", .capital, "=\""), ("", .capitals, "=\""), ("", .whole, "ous "),
  ("", .capitals, ", "), ("", .capital, "=\x27"), (" ", .capital, ","), (" ", .capitals, "=\""),
  (" ", .capitals, ", "), ("", .capitals, ","), ("", .capitals, "("), ("", .capitals, ". "),
  (" ", .capitals, "."), ("", .capitals, "=\x27"), (" ", .capitals, ". "),
  (" ", .capital, "=\""), (" ", .capitals, "=\x27"), (" ", .capital, "=\x27")]

/-- A word in one of its forms. -/
def inForm? (form : Nat) (bs : List UInt8) : Option (List UInt8) :=
  forms[form]?.map fun (front, change, back) => Utf8.bytes front ++ change.apply bs ++ Utf8.bytes back

end Bearer.Packed.Brotli
