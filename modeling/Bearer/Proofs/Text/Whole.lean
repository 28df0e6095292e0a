import Bearer.Decimal.Reader
import Bearer.Text.Case
import Bearer.Text.Number
/-! Whole numbers of any size as text: digits, perhaps behind a sign. They are no words, and what reads numbers of a
bounded size and what reads fractions takes them for the same. -/

namespace Bearer

/-- Lower case leaves digits as they are. -/
theorem toLower_of_isDigit {c : Char} (hc : c.isDigit = true) : c.toLower = c := by
  rw [Char.isDigit, Bool.and_eq_true, decide_eq_true_iff, decide_eq_true_iff] at hc
  have hle : c.val.toNat ≤ 57 := UInt32.le_iff_toNat_le.1 hc.2
  unfold Char.toLower
  split
  · next hupper =>
    have hge : 65 ≤ c.val.toNat := UInt32.le_iff_toNat_le.1 hupper.1
    omega
  · rfl

namespace Text

/-- A whole number of any size. -/
def whole? (s : String) : Option Int :=
  match s.toList with
  | '+' :: rest => (digits? rest).map fun m : Nat => (m : Int)
  | '-' :: rest => (digits? rest).map fun m : Nat => -(m : Int)
  | cs => (digits? cs).map fun m : Nat => (m : Int)

theorem signed?_eq (bits : Nat) (s : String) : signed? bits s = (whole? s).filter (Bits.isSigned bits) := by
  have hcast : ∀ o : Option Nat, (do let m ← o; pure (m : Int) : Option Int) = o.map fun m : Nat => (m : Int) := by
    intro o
    cases o <;> rfl
  unfold signed? whole?
  simp only [hcast, Option.map_map]
  rfl

theorem digits_of_digits? {ds : List Char} {n : Nat} (h : digits? ds = some n) :
    ds ≠ [] ∧ (∀ c ∈ ds, c.isDigit = true) ∧ Binary64.digitsValue ds = n := by
  unfold digits? at h
  split at h
  · cases h
  · next hdigits =>
    rw [Bool.or_eq_true, not_or, Bool.not_eq_true', Bool.not_eq_false, List.all_eq_true] at hdigits
    refine ⟨?_, hdigits.2, Option.some.inj h⟩
    rintro rfl
    exact hdigits.1 rfl

theorem magnitude?_of_digits {ds : List Char} {n : Nat} (h : digits? ds = some n) (negative : Bool) :
    Binary64.magnitude? negative ds = some (.ofDecimal negative n 0) := by
  obtain ⟨hne, hdigits, hvalue⟩ := digits_of_digits? h
  have hlower : ds.map Char.toLower = ds := by
    rw [List.map_congr_left fun c hc => toLower_of_isDigit (hdigits c hc), List.map_id']
  have hword : ∀ w : List Char, w.all Char.isDigit = false → ds ≠ w := by
    rintro _ hw rfl
    rw [List.all_eq_true.2 hdigits] at hw
    cases hw
  have hwhole : ds.takeWhile Char.isDigit = ds := by
    rw [← List.append_nil ds, List.takeWhile_append_of_pos hdigits]
    rfl
  have hrest : ds.dropWhile Char.isDigit = [] := by
    rw [← List.append_nil ds, List.dropWhile_append_of_pos hdigits]
    rfl
  have hempty : ds.isEmpty = false := List.isEmpty_eq_false_iff.2 hne
  simp only [Binary64.magnitude?, hlower, hwhole, hrest, hempty]
  rw [if_neg (not_or.2 ⟨hword _ (by decide), hword _ (by decide)⟩), if_neg (hword _ (by decide))]
  simp [Binary64.exponent?, hvalue]

section

variable {s : String} {n : Int} (h : whole? s = some n)

include h

/-- A whole number has a sign and a size, and it is what is read as a fraction, too. -/
theorem exists_size : ∃ (negative : Bool) (m : Nat),
    n = (if negative then -(m : Int) else m) ∧ Binary64.parse? s = some (.ofDecimal negative m 0) := by
  unfold whole? at h
  unfold Binary64.parse?
  split at h
  · next rest hs =>
    obtain ⟨m, hm, rfl⟩ := Option.map_eq_some_iff.1 h
    rw [hs]
    exact ⟨false, m, rfl, magnitude?_of_digits hm false⟩
  · next rest hs =>
    obtain ⟨m, hm, rfl⟩ := Option.map_eq_some_iff.1 h
    rw [hs]
    exact ⟨true, m, rfl, magnitude?_of_digits hm true⟩
  · next hplus hminus =>
    obtain ⟨m, hm, rfl⟩ := Option.map_eq_some_iff.1 h
    refine ⟨false, m, rfl, ?_⟩
    split
    · next rest hs => exact absurd hs (hminus rest)
    · next rest hs => exact absurd hs (hplus rest)
    · exact magnitude?_of_digits hm false

/-- A whole number has no letters. -/
theorem lower_of_whole : lower s = s := by
  have hchars : ∀ c ∈ s.toList, c = '+' ∨ c = '-' ∨ c.isDigit = true := by
    unfold whole? at h
    split at h
    · next rest hs =>
      obtain ⟨m, hm, -⟩ := Option.map_eq_some_iff.1 h
      rw [hs, List.forall_mem_cons]
      exact ⟨.inl rfl, fun c hc => .inr (.inr ((digits_of_digits? hm).2.1 c hc))⟩
    · next rest hs =>
      obtain ⟨m, hm, -⟩ := Option.map_eq_some_iff.1 h
      rw [hs, List.forall_mem_cons]
      exact ⟨.inr (.inl rfl), fun c hc => .inr (.inr ((digits_of_digits? hm).2.1 c hc))⟩
    · obtain ⟨m, hm, -⟩ := Option.map_eq_some_iff.1 h
      exact fun c hc => .inr (.inr ((digits_of_digits? hm).2.1 c hc))
  have hsame : ∀ c ∈ s.toList, (if c.toNat = 0x212a then 'k' else c.toLower) = c := by
    intro c hc
    rcases hchars c hc with rfl | rfl | hdigit
    · decide
    · decide
    · rw [if_neg, toLower_of_isDigit hdigit]
      intro hkelvin
      have hle := UInt32.le_iff_toNat_le.1 (of_decide_eq_true (Bool.and_eq_true_iff.1 hdigit).2)
      exact absurd (hkelvin ▸ hle : 0x212a ≤ 57) (by decide)
  rw [lower, List.map_congr_left hsame, List.map_id', String.ofList_toList]

end

end Text

end Bearer
