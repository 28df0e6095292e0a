import Bearer.Decimal.Reader
import Mathlib.Algebra.Group.Nat.Defs
import Mathlib.Tactic.SplitIfs
/-! Whole numbers that are too large for 63 bits, as binary numbers. There are 53 bits for their digits, so below 64 bits
they come to multiples of 2048, and those of more bits stay as large. -/

namespace Bearer.Binary64

theorem divEven_bounds (num den : Nat) : num / den ≤ divEven num den ∧ divEven num den ≤ num / den + 1 := by
  simp only [divEven]
  split_ifs <;> omega

/-- Bits that are cut off leave the others. -/
theorem two_pow_le_div {n q : Nat} (hn : n ≠ 0) (hq : q ≤ Nat.log2 n) : 2 ^ (Nat.log2 n - q) ≤ n / 2 ^ q := by
  rw [Nat.le_div_iff_mul_le (Nat.two_pow_pos q), ← Nat.pow_add, Nat.sub_add_cancel hq]
  exact Nat.log2_self_le hn

theorem scaled_natCast (n q : Nat) : scaled n 1 q = divEven n (2 ^ q) := by
  rw [scaled, if_pos (Int.natCast_nonneg q), Nat.one_mul, Int.toNat_natCast]
  rfl

/-- The whole number that a large one comes to, if it is not infinite. -/
structure Rounded (n r : Nat) : Prop where
  below : n < 2 ^ 64 → r = 2048 * divEven n 2048
  above : 2 ^ 64 ≤ n → 2 ^ 64 ≤ r

/-- The exponent of a large number leaves 53 bits, or it is the next one where rounding makes one bit more. -/
def IsExponent (n q : Nat) : Prop :=
  q + 52 = Nat.log2 n ∨ q + 51 = Nat.log2 n ∧ mostSignificand < divEven n (2 ^ (Nat.log2 n - 52))

section

variable {n : Nat} (hn : 2 ^ 63 ≤ n)

include hn

theorem ofRatio_of_large (negative : Bool) : ∃ q : Nat, IsExponent n q ∧
    ofRatio negative n 1 = if 971 < (q : Int) then infinite negative else finite negative (divEven n (2 ^ q)) q := by
  have hne : n ≠ 0 := by omega
  have hlog : 63 ≤ Nat.log2 n := (Nat.le_log2 hne).2 hn
  obtain ⟨k, hk⟩ := Nat.exists_eq_add_of_le' (show 53 ≤ Nat.log2 n by omega)
  have hlow : max ((Nat.log2 n : Int) - Nat.log2 1 - 53) (-1074) = k := by
    have hone : Nat.log2 1 = 0 := rfl
    omega
  -- with the least exponent that is tried there are 54 bits
  have hlong : ¬divEven n (2 ^ k) ≤ mostSignificand := by
    have hquotient := two_pow_le_div hne (show k ≤ Nat.log2 n by omega)
    have hbounds := divEven_bounds n (2 ^ k)
    rw [show Nat.log2 n - k = 53 by omega] at hquotient
    rw [mostSignificand]
    omega
  have hnext : ((k : Int) + 1) = ((k + 1 : Nat) : Int) := rfl
  have hlast : ((k : Int) + 2) = ((k + 2 : Nat) : Int) := rfl
  simp only [ofRatio, if_neg hne, hlow, scaled_natCast, if_neg hlong, hnext, hlast]
  by_cases hfits : divEven n (2 ^ (k + 1)) ≤ mostSignificand
  · refine ⟨k + 1, .inl (by omega), ?_⟩
    rw [if_pos hfits, scaled_natCast]
  · refine ⟨k + 2, .inr ⟨by omega, ?_⟩, ?_⟩
    · rw [show Nat.log2 n - 52 = k + 1 by omega]
      omega
    · rw [if_neg hfits, scaled_natCast]

theorem rounded_of_isExponent {q : Nat} (hq : IsExponent n q) : Rounded n (divEven n (2 ^ q) * 2 ^ q) := by
  have hne : n ≠ 0 := by omega
  constructor
  · intro hlt
    have hlog : Nat.log2 n = 63 := by
      rw [Nat.log2_eq_iff hne]
      omega
    rw [IsExponent, hlog] at hq
    obtain hq | ⟨hq, hmost⟩ := hq
    · obtain rfl : q = 11 := by omega
      exact Nat.mul_comm _ _
    · obtain rfl : q = 12 := by omega
      -- all 53 bits are ones, and rounding carries into the next one
      simp only [divEven, mostSignificand] at hmost ⊢
      split_ifs at hmost ⊢ <;> omega
  · intro hle
    have hlog : 64 ≤ Nat.log2 n := (Nat.le_log2 hne).2 hle
    have hbelow : q ≤ Nat.log2 n := by
      unfold IsExponent at hq
      omega
    have hquotient := two_pow_le_div hne hbelow
    calc 2 ^ 64 ≤ 2 ^ Nat.log2 n := Nat.pow_le_pow_right (by decide) hlog
      _ = 2 ^ (Nat.log2 n - q) * 2 ^ q := by rw [← Nat.pow_add, Nat.sub_add_cancel hbelow]
      _ ≤ divEven n (2 ^ q) * 2 ^ q := Nat.mul_le_mul_right _ (Nat.le_trans hquotient (divEven_bounds n _).1)

/-- A large number, read as a binary one, is as large as it was: it is infinite only where it has more than 64 bits. -/
theorem ofDecimal_of_large (negative : Bool) :
    (ofDecimal negative n 0 = infinite negative ∧ 2 ^ 64 ≤ n) ∨
      ∃ m q, ∃ r : Nat, ofDecimal negative n 0 = finite negative m q ∧
        (finite negative m q).round = some (if negative then -(r : Int) else r) ∧ Rounded n r := by
  have hne : n ≠ 0 := by omega
  by_cases hlong : 310 < (toString n).length
  · left
    refine ⟨?_, Nat.le_of_not_lt fun hlt => ?_⟩
    · simp only [ofDecimal, if_neg hne]
      rw [if_pos (by omega)]
    · have hshort : (Nat.toDigits 10 n).length ≤ 20 := (Nat.length_toDigits_le_iff (by decide) (by decide)).2 (by omega)
      rw [Nat.toString_eq_ofList_toDigits, String.length_ofList] at hlong
      omega
  · have hratio : ofDecimal negative n 0 = ofRatio negative n 1 := by
      simp only [ofDecimal, if_neg hne]
      rw [if_neg (by omega), if_neg (by omega), if_pos (by decide)]
      exact congrArg (ofRatio negative · 1) (Nat.mul_one n)
    obtain ⟨q, hq, hof⟩ := ofRatio_of_large hn negative
    have hrounded := rounded_of_isExponent hn hq
    rw [hratio, hof]
    by_cases hinfinite : 971 < (q : Int)
    · left
      rw [if_pos hinfinite]
      refine ⟨rfl, (Nat.le_log2 hne).1 ?_⟩
      unfold IsExponent at hq
      omega
    · right
      rw [if_neg hinfinite]
      refine ⟨_, _, _, rfl, ?_, hrounded⟩
      simp only [round]
      rw [if_pos (Int.natCast_nonneg q)]
      rfl

end

end Bearer.Binary64
