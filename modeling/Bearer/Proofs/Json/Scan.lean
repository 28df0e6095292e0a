import Bearer.Json.Reader
import Bearer.Json.Writer
import Mathlib.Tactic.SplitIfs
/-! Numbers and strings as they are written are read back from the front of a text. A string ends at its
closing quote; a number ends where no further digit, point or exponent follows. -/

namespace Bearer

/-- A number whose fraction, if it has one, consists of digits. -/
def Numeral.IsWritten (n : Numeral) : Prop := ∀ ds ∈ n.fraction, ds ≠ [] ∧ ∀ c ∈ ds, c.isDigit = true

namespace Json

section Numbers

theorem toList_toString (n : Nat) : (toString n).toList = Nat.toDigits 10 n := by
  rw [Nat.toString_eq_ofList_toDigits, String.toList_ofList]

theorem isDigit_of_mem_digits {n : Nat} {c : Char} (h : c ∈ digits n) : c.isDigit = true := by
  rw [digits, toList_toString] at h
  exact Nat.isDigit_of_mem_toDigits (by decide) (by decide) h

theorem digits_ne_nil (n : Nat) : digits n ≠ [] := by
  rw [digits, toList_toString]
  exact Nat.toDigits_ne_nil

theorem natOf_digits (n : Nat) : natOf (digits n) = n := by
  rw [digits, toList_toString, natOf]
  exact Nat.ofDigitChars_eq_foldl.symm.trans Nat.ofDigitChars_ten_toDigits

/-- Only zero is written with a zero in front. -/
theorem eq_zero_of_head_digits {n : Nat} (h : (digits n).head? = some '0') : n = 0 := by
  rw [digits, toList_toString] at h
  induction n using Nat.strongRecOn with
  | ind n ih =>
    by_cases hn : n < 10
    · rw [Nat.toDigits_of_lt_base hn] at h
      have hdigit : ∀ m, m < 10 → m.digitChar = '0' → m = 0 := by decide
      exact hdigit n hn (Option.some.inj h)
    · rw [Nat.toDigits_of_base_le (by decide) (by omega), List.head?_append, List.head?_eq_some_head
        Nat.toDigits_ne_nil, Option.some_or, ← List.head?_eq_some_head Nat.toDigits_ne_nil] at h
      have := ih (n / 10) (by omega) h
      omega

/-- What may follow a number: nothing that would be read as part of it. -/
def EndsNumber (rest : List (Option Char)) : Prop :=
  ∀ c, rest.head? = some (some c) → c.isDigit = false ∧ c ≠ '.' ∧ c ≠ 'e' ∧ c ≠ 'E'

theorem digitRun_append {ds : List Char} (hds : ∀ c ∈ ds, c.isDigit = true) {rest : List (Option Char)}
    (hrest : ∀ c, rest.head? = some (some c) → c.isDigit = false) :
    digitRun (ds.map some ++ rest) = (ds, rest) := by
  have htake : rest.takeWhile isDigit = [] ∧ rest.dropWhile isDigit = rest := by
    rcases rest with _ | ⟨_ | c, rest⟩
    · exact ⟨rfl, rfl⟩
    · exact ⟨rfl, rfl⟩
    · have hc : isDigit (some c) = false := hrest c rfl
      simp [hc]
  have hall : ∀ c ∈ ds.map some, isDigit c = true := by
    intro c hc
    obtain ⟨d, hd, rfl⟩ := List.mem_map.1 hc
    exact hds d hd
  rw [digitRun, List.takeWhile_append_of_pos hall, List.dropWhile_append_of_pos hall, htake.1, htake.2]
  simp

theorem whole?_digits (n : Nat) (rest : List (Option Char))
    (hrest : ∀ c, rest.head? = some (some c) → c.isDigit = false) :
    whole? ((digits n).map some ++ rest) = some (n, rest) := by
  rw [whole?, digitRun_append (fun c => isDigit_of_mem_digits) hrest]
  cases hds : digits n with
  | nil => exact absurd hds (digits_ne_nil n)
  | cons c ds =>
    by_cases hc : c = '0'
    · obtain rfl : n = 0 := eq_zero_of_head_digits (by rw [hds, hc]; rfl)
      cases hds
      rfl
    · have hn := natOf_digits n
      rw [hds] at hn
      simp [hc, hn]

/-- The point and the digits behind it. -/
def fractionChars : Option (List Char) → List Char
  | none => []
  | some ds => '.' :: ds

/-- The letter and the power of ten behind it. -/
def exponentChars : Option Int → List Char
  | none => []
  | some e => 'e' :: (if 0 ≤ e then ['+'] else []) ++ (toString e).toList

theorem numeralChars_eq (n : Numeral) :
    numeralChars n = (if n.negative then ['-'] else []) ++ digits n.whole ++ fractionChars n.fraction
      ++ exponentChars n.exponent := rfl

theorem fraction?_append {f : Option (List Char)} (hf : ∀ ds ∈ f, ds ≠ [] ∧ ∀ c ∈ ds, c.isDigit = true)
    (rest : List (Option Char)) (hrest : ∀ c, rest.head? = some (some c) → c.isDigit = false ∧ c ≠ '.') :
    fraction? ((fractionChars f).map some ++ rest) = some (f, rest) := by
  cases f with
  | none =>
    show fraction? rest = _
    unfold fraction?
    split
    · exact absurd rfl (hrest '.' rfl).2
    · rfl
  | some ds =>
    obtain ⟨hne, hds⟩ := hf ds rfl
    show fraction? (some '.' :: (ds.map some ++ rest)) = _
    rw [fraction?, digitRun_append hds fun c hc => (hrest c hc).1]
    cases ds with
    | nil => exact absurd rfl hne
    | cons d ds => rfl

theorem exponent?_append (e : Option Int) {rest : List (Option Char)}
    (hrest : ∀ c, rest.head? = some (some c) → c.isDigit = false ∧ c ≠ 'e' ∧ c ≠ 'E') :
    exponent? ((exponentChars e).map some ++ rest) = some (e, rest) := by
  cases e with
  | none =>
    show exponent? rest = _
    unfold exponent?
    split
    · exact absurd rfl (hrest 'e' rfl).2.1
    · exact absurd rfl (hrest 'E' rfl).2.2
    · rfl
  | some e =>
    have hread (n : Nat) : digitRun ((digits n).map some ++ rest) = (digits n, rest) :=
      digitRun_append (fun _ => isDigit_of_mem_digits) fun c hc => (hrest c hc).1
    cases e with
    | ofNat n =>
      show exponent? (some 'e' :: some '+' :: ((digits n).map some ++ rest)) = _
      simp only [exponent?, hread]
      split
      · next h => exact absurd (congrArg Prod.fst h) (digits_ne_nil n)
      · next h =>
        cases h
        simp [natOf_digits]
    | negSucc n =>
      have htext : exponentChars (some (Int.negSucc n)) = 'e' :: '-' :: digits (n + 1) := by
        show 'e' :: ("-" ++ toString (n + 1)).toList = _
        rw [String.toList_append]
        rfl
      show exponent? ((exponentChars (some (Int.negSucc n))).map some ++ rest) = _
      simp only [htext, List.map_cons, List.cons_append, exponent?, hread]
      split
      · next h => exact absurd (congrArg Prod.fst h) (digits_ne_nil (n + 1))
      · next h =>
        cases h
        simp [natOf_digits, Int.negSucc_eq]

theorem numeral?_append {n : Numeral} (hn : n.IsWritten) {rest : List (Option Char)} (hrest : EndsNumber rest) :
    numeral? ((numeralChars n).map some ++ rest) = some (n, rest) := by
  obtain ⟨negative, n, f, e⟩ := n
  have hexponent := exponent?_append e fun c hc => ⟨(hrest c hc).1, (hrest c hc).2.2⟩
  have hfraction := fraction?_append hn ((exponentChars e).map some ++ rest) fun c hc => by
    cases e with
    | none => exact ⟨(hrest c hc).1, (hrest c hc).2.1⟩
    | some e => cases hc; decide
  have hwhole := whole?_digits n ((fractionChars f).map some ++ ((exponentChars e).map some ++ rest)) fun c hc => by
    cases f with
    | none =>
      cases e with
      | none => exact (hrest c hc).1
      | some e => cases hc; decide
    | some ds => cases hc; decide
  unfold numeral?
  simp only [numeralChars_eq, List.map_append, List.append_assoc]
  cases negative with
  | true => simp [hwhole, hfraction, hexponent]
  | false =>
    simp only [Bool.false_eq_true, if_false, List.map_nil, List.nil_append]
    split
    · next h =>
      obtain ⟨c, ds, hds⟩ := List.exists_cons_of_ne_nil (digits_ne_nil n)
      have hc := isDigit_of_mem_digits (c := c) (hds ▸ List.mem_cons_self)
      rw [hds] at h
      cases h
      cases hc
    · simp [hwhole, hfraction, hexponent]

end Numbers

section Strings

/-- The four digits behind a `u` name the control character that they write. -/
theorem unitEscape?_control {c : Char} (hc : c.toNat < 32) :
    unitEscape? '0' '0' (Hex.digit (c.toNat / 16)) (Hex.digit (c.toNat % 16)) = some (.char c) := by
  have hhigh := Hex.value?_digit (c.toNat / 16) (by omega)
  have hlow := Hex.value?_digit (c.toNat % 16) (by omega)
  have hzero : Hex.value? '0' = some 0 := rfl
  have hnumber : Hex.number? ['0', '0', Hex.digit (c.toNat / 16), Hex.digit (c.toNat % 16)] = some c.toNat := by
    simp [Hex.number?, hhigh, hlow, hzero]
    omega
  simp only [unitEscape?, hnumber, Option.bind_eq_bind, Option.bind_some]
  rw [if_neg (by omega), Char.ofNat_toNat]

/-- The pieces behind a character. -/
def behind (c : Char) (r : List Piece × List (Option Char)) : List Piece × List (Option Char) :=
  (.char c :: r.1, r.2)

theorem pieces_letter {e c : Char} (h : letterEscape? e = some c) (rest : List (Option Char)) :
    pieces (some '\\' :: some e :: rest) = (pieces rest).map (behind c) := by
  have he : e ≠ 'u' := by rintro rfl; cases h
  rw [pieces]
  · rw [h]
    cases pieces rest <;> rfl
  · intros
    simp_all

theorem pieces_escape (c : Char) (rest : List (Option Char)) :
    pieces ((escape c).map some ++ rest) = (pieces rest).map (behind c) := by
  unfold escape
  split_ifs with h₁ h₂ h₃ h₄ h₅ h₆ h₇ h₈
  · subst h₁; exact pieces_letter rfl rest
  · subst h₂; exact pieces_letter rfl rest
  · subst h₃; exact pieces_letter rfl rest
  · subst h₄; exact pieces_letter rfl rest
  · subst h₅; exact pieces_letter rfl rest
  · subst h₆; exact pieces_letter rfl rest
  · subst h₇; exact pieces_letter rfl rest
  · simp only [List.map_cons, List.map_nil, List.cons_append, List.nil_append]
    rw [pieces, unitEscape?_control h₈]
    cases pieces rest <;> rfl
  · simp only [List.map_cons, List.map_nil, List.cons_append, List.nil_append]
    rw [pieces, if_neg (by simp [h₂, h₈])]
    · rfl
    all_goals intros; simp_all

theorem pieces_quoted (s : List Char) (rest : List (Option Char)) :
    pieces ((s.flatMap escape).map some ++ some '"' :: rest) = some (s.map .char, rest) := by
  induction s with
  | nil => rfl
  | cons c s ih =>
    rw [List.flatMap_cons, List.map_append, List.append_assoc, pieces_escape, ih]
    rfl

theorem join?_chars (s : List Char) : join? (s.map .char) = some s := by
  induction s with
  | nil => rfl
  | cons c s ih => simp [join?, ih]

theorem textOf_chars (s : List Char) : textOf (s.map .char) = str (String.ofList s) := by
  simp [textOf, join?_chars]

end Strings

end Json

end Bearer
