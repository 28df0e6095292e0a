import Bearer.Proofs.Json.RoundTrip
import Bearer.Proofs.Text.Base64Url
import Bearer.Proofs.Uuid
import Bearer.Signing.Compact
import Mathlib.Data.List.TakeWhile
/-! The parts of a signed token: a text falls apart at its last dot in one way only, and the header and the
payload that are written are read back. Times come back as whole seconds. -/

namespace Bearer

/-- The start of the second that an instant lies in. -/
def Instant.floor (t : Instant) : Instant where
  nanos := t.seconds * 1000000000
  le_nanos := by have := t.le_nanos; unfold seconds; omega
  nanos_le := by have := t.nanos_le; unfold seconds; omega

theorem Instant.ofSeconds?_seconds (t : Instant) : ofSeconds? t.seconds = some t.floor :=
  ofNanos?_eq_some.2 rfl

theorem Instant.floor_lt_epoch {t : Instant} : t.floor < epoch ↔ t.seconds < 0 := by
  simp only [lt_def, floor, epoch]
  omega

namespace Signing

theorem takeWhile_of_notMem {cs : List Char} (h : '.' ∉ cs) : cs.takeWhile (· ≠ '.') = cs := by
  refine List.takeWhile_eq_self_iff.2 fun c hc => decide_eq_true ?_
  rintro rfl
  exact h hc

theorem takeWhile_ne_dot {before : List Char} (h : '.' ∉ before) (after : List Char) :
    (before ++ '.' :: after).takeWhile (· ≠ '.') = before := by
  rw [List.takeWhile_append, takeWhile_of_notMem h]
  simp

/-- Where a text has its first dot is settled. -/
theorem split_unique {before before' after after' : List Char} (h : '.' ∉ before) (h' : '.' ∉ before')
    (heq : before ++ '.' :: after = before' ++ '.' :: after') : before = before' ∧ after = after' := by
  have hbefore : before = before' := by rw [← takeWhile_ne_dot h after, heq, takeWhile_ne_dot h' after']
  subst hbefore
  exact ⟨rfl, (List.cons.inj (List.append_cancel_left heq)).2⟩

theorem splitLast?_append (before : List Char) {after : List Char} (h : '.' ∉ after) :
    splitLast? (before ++ '.' :: after) = some (before, after) := by
  have hwhile : (before ++ '.' :: after).reverse.takeWhile (· ≠ '.') = after.reverse := by
    rw [List.reverse_append, List.reverse_cons, List.append_assoc]
    exact takeWhile_ne_dot (fun hmem => h (List.mem_reverse.1 hmem)) before.reverse
  simp only [splitLast?, hwhile, List.reverse_reverse, List.length_append, List.length_cons]
  rw [if_pos (by omega), show before.length + (after.length + 1) - after.length - 1 = before.length by omega,
    List.take_left]

/-- A text falls apart at its last dot, if it has one. -/
theorem splitLast?_eq_some {cs before after : List Char} :
    splitLast? cs = some (before, after) ↔ cs = before ++ '.' :: after ∧ '.' ∉ after := by
  refine ⟨fun h => ?_, fun ⟨hcs, hdot⟩ => hcs ▸ splitLast?_append before hdot⟩
  by_cases hmem : '.' ∈ cs
  · obtain ⟨front, back, hcs, hdot⟩ := List.eq_append_cons_of_mem (List.mem_reverse.2 hmem)
    rw [List.reverse_eq_iff, List.reverse_append, List.reverse_cons, List.append_assoc] at hcs
    have hdot' : '.' ∉ front.reverse := fun h => hdot (List.mem_reverse.1 h)
    rw [hcs, List.singleton_append, splitLast?_append _ hdot'] at h
    cases h
    exact ⟨hcs, hdot'⟩
  · rw [splitLast?, takeWhile_of_notMem fun hc => hmem (List.mem_reverse.1 hc), List.reverse_reverse,
      if_neg (Nat.lt_irrefl _)] at h
    cases h

theorem part?_part {j : Json} (hj : j.IsWritten) : part? (part j) = some j := by
  rw [part?, part, Base64Url.decode_encode, Option.bind_some, Json.ofBytes?_chars hj]

theorem dot_notMem_part (j : Json) : '.' ∉ part j := Base64Url.dot_notMem_encode _

theorem dot_notMem_of_part? {cs : List Char} {j : Json} (h : part? cs = some j) : '.' ∉ cs := by
  obtain ⟨bs, hbs, -⟩ := Option.bind_eq_some_iff.1 h
  rw [Base64Url.decode_eq_some.1 hbs]
  exact Base64Url.dot_notMem_encode bs

theorem isWritten_ofInt (i : Int) : (Json.ofInt i).IsWritten := .num fun _ h => by cases h

theorem isWritten_headerOf (a : Algorithm) : (headerOf a).IsWritten := by
  refine .obj fun m hm => ?_
  simp only [List.mem_cons, List.not_mem_nil, or_false] at hm
  rcases hm with rfl | rfl <;> exact .str _

theorem isWritten_toJson (q : Payload) : q.toJson.IsWritten := by
  refine .obj fun m hm => ?_
  rcases List.mem_append.1 hm with hm | hm
  · simp only [List.mem_cons, List.not_mem_nil, or_false] at hm
    rcases hm with rfl | rfl | rfl | rfl
    · exact .str _
    · exact .str _
    · exact isWritten_ofInt _
    · exact isWritten_ofInt _
  · cases hid : q.jti with
    | none => simp [hid] at hm
    | some id =>
      simp only [hid, List.mem_singleton] at hm
      exact hm ▸ .str _

theorem header?_headerOf (a : Algorithm) : header? (headerOf a) = some a := by
  cases a <;> rfl

theorem signed64_ofInt {i : Int} (h : -9223372036854775808 ≤ i ∧ i ≤ 9223372036854775807) :
    signed64 (.ofInt i) = some i := by
  simp [signed64, Json.int?, Json.ofInt, Numeral.toInt?_ofInt, h]

/-- A payload with times of 64 bits is read back, unless it ends before the epoch. -/
theorem payload?_toJson {q : Payload} (hiat : -9223372036854775808 ≤ q.iat ∧ q.iat ≤ 9223372036854775807)
    (hexp : -9223372036854775808 ≤ q.exp ∧ q.exp ≤ 9223372036854775807) :
    payload? q.toJson = if 0 ≤ q.exp then some q else none := by
  obtain ⟨sub, iss, iat, exp, jti⟩ := q
  cases jti <;>
  simp [payload?, Payload.toJson, Json.record?, Json.Record.required, Json.Record.defaulted, Json.text?,
    Json.nullable, signed64_ofInt hiat, signed64_ofInt hexp, List.lookup_cons, List.lookup_nil]

/-- The payload of claims is read back, unless they end before the epoch. -/
theorem payload?_ofClaims (c : Claims) (id : Option Uuid) :
    payload? (Payload.ofClaims c id).toJson =
      if c.expiresAt.floor < .epoch then none else some (Payload.ofClaims c id) := by
  have hseconds : ∀ t : Instant, -9223372036854775808 ≤ t.seconds ∧ t.seconds ≤ 9223372036854775807 := by
    intro t
    have := t.le_nanos
    have := t.nanos_le
    unfold Instant.seconds
    omega
  rw [payload?_toJson (hseconds c.issuedAt) (hseconds c.expiresAt)]
  by_cases hpast : c.expiresAt.seconds < 0
  · rw [if_pos (Instant.floor_lt_epoch.2 hpast)]
    exact if_neg (Int.not_le.2 hpast)
  · rw [if_neg fun h => hpast (Instant.floor_lt_epoch.1 h)]
    exact if_pos (Int.not_lt.1 hpast)

/-- The payload of claims gives the claims in whole seconds. -/
theorem toClaims?_ofClaims (c : Claims) (id : Option Uuid) :
    (Payload.ofClaims c id).toClaims? = some ⟨c.subject, c.issuer, c.issuedAt.floor, c.expiresAt.floor⟩ := by
  simp [Payload.toClaims?, Payload.ofClaims, Uuid.parse?_text, Instant.ofSeconds?_seconds]

end Signing

end Bearer
