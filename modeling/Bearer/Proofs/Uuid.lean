import Bearer.Uuid
import Mathlib.Algebra.Group.Nat.Defs
/-! The text of an identifier is read back as the identifier, so no two have the same text. -/

namespace Bearer.Uuid

theorem length_hexDigits (n v : Nat) : (hexDigits n v).length = n := by
  induction n generalizing v with
  | zero => rfl
  | succ n ih => simp [hexDigits, ih]

theorem length_text (u : Uuid) : u.text.length = 36 := by
  have hlength := length_hexDigits 32 u.bits.toNat
  rw [text, String.length_ofList]
  simp [hyphenated, hlength]

/-- The text of an identifier has digits and hyphens in it, and nothing else. -/
theorem forall_mem_text {P : Char → Prop} (hdigit : ∀ n < 16, P (Hex.digit n)) (hhyphen : P '-') (u : Uuid) :
    ∀ c ∈ u.text.toList, P c := by
  have hdigits : ∀ n v, ∀ c ∈ hexDigits n v, P c := by
    intro n
    induction n with
    | zero => intro v c hc; cases hc
    | succ n ih =>
      intro v c hc
      rcases List.mem_append.1 hc with hc | hc
      · exact ih _ c hc
      · rw [List.mem_singleton.1 hc]
        exact hdigit _ (Nat.mod_lt _ (by decide))
  intro c hc
  rw [text, String.toList_ofList] at hc
  have hmem : c = '-' ∨ c ∈ hexDigits 32 u.bits.toNat := by
    simp only [hyphenated, List.mem_append, List.mem_cons] at hc
    rcases hc with hc | hc | hc | hc | hc | hc | hc | hc | hc
    · exact Or.inr (List.mem_of_mem_take hc)
    · exact Or.inl hc
    · exact Or.inr (List.mem_of_mem_drop (List.mem_of_mem_take hc))
    · exact Or.inl hc
    · exact Or.inr (List.mem_of_mem_drop (List.mem_of_mem_take hc))
    · exact Or.inl hc
    · exact Or.inr (List.mem_of_mem_drop (List.mem_of_mem_take hc))
    · exact Or.inl hc
    · exact Or.inr (List.mem_of_mem_drop hc)
  rcases hmem with rfl | hc
  · exact hhyphen
  · exact hdigits 32 _ c hc

theorem number?_append_digit {cs : List Char} {m d : Nat} (hcs : Hex.number? cs = some m) (hd : d < 16) :
    Hex.number? (cs ++ [Hex.digit d]) = some (16 * m + d) := by
  unfold Hex.number? at hcs ⊢
  rw [List.foldlM_append, hcs]
  simp [Hex.value?_digit d hd]

theorem number?_hexDigits (n v : Nat) : Hex.number? (hexDigits n v) = some (v % 16 ^ n) := by
  induction n generalizing v with
  | zero => simp [hexDigits, Hex.number?, Nat.mod_one]
  | succ n ih =>
    rw [hexDigits, number?_append_digit (ih (v / 16)) (Nat.mod_lt v (by decide)), Nat.pow_succ', Nat.mod_mul]
    congr 1
    omega

theorem ofHyphenated?_groups {a b c d e : List Char} (ha : a.length = 8) (hb : b.length = 4) (hc : c.length = 4)
    (hd : d.length = 4) (he : e.length = 12) :
    ofHyphenated? (a ++ '-' :: (b ++ '-' :: (c ++ '-' :: (d ++ '-' :: e)))) = ofDigits? (a ++ b ++ c ++ d ++ e) := by
  have hlength : (a ++ '-' :: (b ++ '-' :: (c ++ '-' :: (d ++ '-' :: e)))).length = 36 := by simp; omega
  unfold ofHyphenated?
  rw [if_pos]
  · simp [List.drop_append, List.drop_of_length_le, ha, hb, hc, hd]
  · refine ⟨hlength, ?_⟩
    simp [List.getElem?_append, ha, hb, hc, hd]

theorem parse?_text (u : Uuid) : parse? u.text = some u := by
  have hlen := length_hexDigits 32 u.bits.toNat
  have hnumber := number?_hexDigits 32 u.bits.toNat
  rw [Nat.mod_eq_of_lt (by simpa using u.bits.isLt)] at hnumber
  simp only [text, parse?, String.toList_ofList]
  generalize hexDigits 32 u.bits.toNat = ds at hlen hnumber
  have hgroups : ofHyphenated? (hyphenated ds) = ofDigits? ds := by
    rw [hyphenated, ofHyphenated?_groups (by simp [hlen]) (by simp [hlen]) (by simp [hlen]) (by simp [hlen])
      (by simp [hlen])]
    rw [← List.take_add, ← List.take_add, ← List.take_add, List.take_append_drop]
  have hlength : (hyphenated ds).length = 36 := by simp [hyphenated, hlen]
  rw [if_neg (by omega), if_pos hlength, hgroups, ofDigits?, if_pos hlen, hnumber]
  simp [ofNat]

theorem text_injective {u v : Uuid} (h : u.text = v.text) : u = v := by
  have hu := parse?_text u
  rw [h, parse?_text v] at hu
  exact (Option.some.inj hu).symm

end Bearer.Uuid
