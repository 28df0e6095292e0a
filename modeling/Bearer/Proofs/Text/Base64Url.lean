import Bearer.Text.Base64Url
/-! Bytes have one text in base64url: whatever is read at all is the text that writing gives. -/

namespace Bearer.Base64Url

theorem char_of_value? {c : Char} {n : Nat} (h : value? c = some n) : char n = c ∧ n < 64 := by
  unfold value? at h
  simp only [Char.le_def, UInt32.le_iff_toNat_le] at h
  have hc : c.toNat = c.val.toNat := rfl
  split at h
  · next hr =>
    have h₁ : 65 ≤ c.toNat := hr.1
    have h₂ : c.toNat ≤ 90 := hr.2
    cases h
    rw [char, if_pos (by omega), show 65 + (c.toNat - 65) = c.toNat by omega, Char.ofNat_toNat]
    exact ⟨rfl, by omega⟩
  split at h
  · next hr =>
    have h₁ : 97 ≤ c.toNat := hr.1
    have h₂ : c.toNat ≤ 122 := hr.2
    cases h
    rw [char, if_neg (by omega), if_pos (by omega), show 71 + (c.toNat - 71) = c.toNat by omega, Char.ofNat_toNat]
    exact ⟨rfl, by omega⟩
  split at h
  · next hr =>
    have h₁ : 48 ≤ c.toNat := hr.1
    have h₂ : c.toNat ≤ 57 := hr.2
    cases h
    rw [char, if_neg (by omega), if_neg (by omega), if_pos (by omega), show c.toNat + 4 - 4 = c.toNat by omega,
      Char.ofNat_toNat]
    exact ⟨rfl, by omega⟩
  split at h
  · next hr =>
    cases h
    exact ⟨hr.symm, by omega⟩
  split at h
  · next hr =>
    cases h
    exact ⟨hr.symm, by omega⟩
  · cases h

theorem map_char_of_mapM {cs : List Char} {ds : List Nat} (h : cs.mapM value? = some ds) :
    ds.map char = cs ∧ ∀ d ∈ ds, d < 64 := by
  induction cs generalizing ds with
  | nil => cases h; simp
  | cons c cs ih =>
    rw [List.mapM_cons] at h
    obtain ⟨d, hd, h⟩ := Option.bind_eq_some_iff.1 h
    obtain ⟨es, hes, h⟩ := Option.bind_eq_some_iff.1 h
    cases h
    obtain ⟨hmap, hlt⟩ := ih hes
    obtain ⟨hc, hd⟩ := char_of_value? hd
    simp only [List.map_cons, hc, hmap, List.mem_cons, forall_eq_or_imp, true_and]
    exact ⟨hd, hlt⟩

theorem digits_of_bytes? {ds : List Nat} (hds : ∀ d ∈ ds, d < 64) {bs : List UInt8} (h : bytes? ds = some bs) :
    digits bs = ds := by
  fun_induction bytes? ds generalizing bs with
  | case1 => cases h; rfl
  | case2 => cases h
  | case3 p q hq =>
    cases h
    simp only [List.mem_cons, List.not_mem_nil, or_false, forall_eq_or_imp, forall_eq] at hds
    simp only [digits, UInt8.toNat_ofNat', List.cons.injEq, and_true]
    omega
  | case4 => cases h
  | case5 p q r hr =>
    cases h
    simp only [List.mem_cons, List.not_mem_nil, or_false, forall_eq_or_imp, forall_eq] at hds
    simp only [digits, UInt8.toNat_ofNat', List.cons.injEq, and_true]
    omega
  | case6 => cases h
  | case7 p q r s rest ih =>
    obtain ⟨bs', hrest, rfl⟩ := Option.map_eq_some_iff.1 h
    simp only [List.mem_cons, forall_eq_or_imp] at hds
    obtain ⟨hp, hq, hr, hs, hds⟩ := hds
    simp only [digits, UInt8.toNat_ofNat', ih hds hrest, List.cons.injEq, and_true]
    omega

/-- A text is read if and only if it is the text of the bytes. -/
theorem decode_eq_some {cs : List Char} {bs : List UInt8} : decode cs = some bs ↔ cs = encode bs := by
  constructor
  · intro h
    obtain ⟨ds, hds, hbs⟩ := Option.bind_eq_some_iff.1 h
    obtain ⟨hmap, hlt⟩ := map_char_of_mapM hds
    rw [encode, digits_of_bytes? hlt hbs, hmap]
  · rintro rfl
    exact decode_encode bs

theorem dot_notMem_encode (bs : List UInt8) : '.' ∉ encode bs := by
  intro h
  obtain ⟨d, hd, hc⟩ := List.mem_map.1 h
  have hdot : ∀ n, n < 64 → char n ≠ '.' := by decide
  exact hdot d (digits_lt bs d hd) hc

end Bearer.Base64Url
