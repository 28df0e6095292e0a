import Bearer.Proofs.Json.Scan
/-! Reading undoes writing, for every value that is written as it is. -/

namespace Bearer.Json

/-- A value without garbled parts, whose numbers have a written form. -/
inductive IsWritten : Json → Prop
  | null : IsWritten null
  | bool (b : Bool) : IsWritten (bool b)
  | num {n : Numeral} (h : n.IsWritten) : IsWritten (num n)
  | str (s : String) : IsWritten (str s)
  | arr {items : List Json} (h : ∀ x ∈ items, x.IsWritten) : IsWritten (arr items)
  | obj {members : List (String × Json)} (h : ∀ m ∈ members, m.2.IsWritten) : IsWritten (obj members)

/-- The value is read back from the front of every text that does not go on with the number it may be. -/
def ReadBack (j : Json) : Prop :=
  ∀ fuel rest, 2 * j.chars.length ≤ fuel → EndsNumber rest →
    value? fuel (j.chars.map some ++ rest) = some (j, rest)

theorem skip_cons {c : Char} (hc : isSpace (some c) = false) (rest : List (Option Char)) :
    skip (some c :: rest) = some c :: rest := by
  simp [skip, hc]

theorem endsNumber_cons {c : Char} (hc : c.isDigit = false ∧ c ≠ '.' ∧ c ≠ 'e' ∧ c ≠ 'E')
    (rest : List (Option Char)) : EndsNumber (some c :: rest) := by
  intro d hd
  cases hd
  exact hc

theorem isSpace_of_isDigit {c : Char} (hc : c.isDigit = true) : isSpace (some c) = false := by
  simp only [isSpace, Bool.or_eq_false_iff, beq_eq_false_iff_ne, ne_eq, Option.some.injEq]
  refine ⟨⟨⟨?_, ?_⟩, ?_⟩, ?_⟩ <;>
  · rintro rfl
    cases hc

/-- A number begins with its sign or a digit. -/
theorem numeralChars_eq_cons (n : Numeral) :
    ∃ c cs, numeralChars n = c :: cs ∧ (c = '-' ∨ c.isDigit = true) := by
  rw [numeralChars_eq]
  cases n.negative with
  | true => exact ⟨'-', _, rfl, Or.inl rfl⟩
  | false =>
    obtain ⟨c, ds, hds⟩ := List.exists_cons_of_ne_nil (digits_ne_nil n.whole)
    exact ⟨c, _, by rw [hds]; rfl, Or.inr (isDigit_of_mem_digits (hds ▸ List.mem_cons_self))⟩

/-- A value begins with a character that is no blank and closes no array. -/
theorem chars_eq_cons (j : Json) :
    ∃ c cs, j.chars = c :: cs ∧ isSpace (some c) = false ∧ c ≠ ']' := by
  cases j with
  | num n =>
    obtain ⟨c, cs, hn, hc⟩ := numeralChars_eq_cons n
    refine ⟨c, cs, hn, ?_⟩
    rcases hc with rfl | hc
    · decide
    · exact ⟨isSpace_of_isDigit hc, by rintro rfl; cases hc⟩
  | null => exact ⟨'n', _, rfl, by decide, by decide⟩
  | bool b => cases b <;> exact ⟨_, _, rfl, by decide, by decide⟩
  | str s => exact ⟨'"', _, rfl, by decide, by decide⟩
  | arr items => exact ⟨'[', _, rfl, by decide, by decide⟩
  | obj members => exact ⟨'\x7b', _, rfl, by decide, by decide⟩
  | garbled b => exact ⟨'n', _, rfl, by decide, by decide⟩

theorem readBack_num {n : Numeral} (hn : n.IsWritten) : ReadBack (num n) := by
  intro fuel rest hfuel hrest
  obtain ⟨c, cs, hcs, hc⟩ := numeralChars_eq_cons n
  have hread := numeral?_append hn hrest
  simp only [chars, hcs, List.map_cons, List.cons_append, List.length_cons] at hfuel hread ⊢
  cases fuel with
  | zero => omega
  | succ fuel =>
    have hspace : isSpace (some c) = false := by
      rcases hc with rfl | hc
      · decide
      · exact isSpace_of_isDigit hc
    rw [value?, skip_cons hspace]
    split
    case h_7 => rw [hread]; rfl
    all_goals
      next h =>
      rw [List.cons.injEq, Option.some.injEq] at h
      obtain ⟨rfl, -⟩ := h
      rcases hc with hc | hc <;> cases hc

theorem readBack_str (s : String) : ReadBack (str s) := by
  intro fuel rest hfuel _
  simp only [chars, quoted, List.length_append, List.length_cons] at hfuel
  cases fuel with
  | zero => omega
  | succ fuel =>
    show value? (fuel + 1) (((quoted s.toList).map some) ++ rest) = _
    have hread := pieces_quoted s.toList rest
    simp only [quoted, List.map_cons, List.map_append, List.cons_append, List.append_assoc, List.map_nil,
      List.nil_append]
    rw [value?, skip_cons (by decide)]
    simp only [hread, Option.map_some, textOf_chars, String.ofList_toList]

/-- The items and the closing bracket, if every item is read back. -/
theorem items?_itemChars {x : Json} {xs : List Json} (hxs : ∀ y ∈ x :: xs, ReadBack y) (rest : List (Option Char))
    {fuel : Nat} (hfuel : 2 * (itemChars (x :: xs)).length ≤ fuel) :
    items? fuel ((itemChars (x :: xs)).map some ++ rest) = some (x :: xs, rest) := by
  induction xs generalizing x fuel with
  | nil =>
    simp only [itemChars, List.length_append, List.length_singleton] at hfuel
    cases fuel with
    | zero => omega
    | succ fuel =>
      have hx := hxs x (by simp) fuel (some ']' :: rest) (by omega) (endsNumber_cons (by decide) _)
      simp [itemChars, items?, hx, skip_cons (c := ']') (by decide)]
  | cons y ys ih =>
    simp only [itemChars, List.length_append, List.length_cons] at hfuel
    cases fuel with
    | zero => omega
    | succ fuel =>
      have hx := hxs x (by simp) fuel (some ',' :: ((itemChars (y :: ys)).map some ++ rest)) (by omega)
        (endsNumber_cons (by decide) _)
      have hys : items? fuel ((itemChars (y :: ys)).map some ++ rest) = some (y :: ys, rest) :=
        ih (fun z hz => hxs z (List.mem_cons_of_mem x hz)) (by omega)
      simp [itemChars, items?, hx, hys, skip_cons (c := ',') (by decide)]

theorem readBack_arr {items : List Json} (hitems : ∀ x ∈ items, ReadBack x) : ReadBack (arr items) := by
  intro fuel rest hfuel _
  simp only [chars, List.length_cons] at hfuel
  cases fuel with
  | zero => omega
  | succ fuel =>
    show value? (fuel + 1) (some '[' :: ((itemChars items).map some ++ rest)) = _
    rw [value?, skip_cons (by decide)]
    cases items with
    | nil => rfl
    | cons x xs =>
      -- the first item closes nothing, so the array is not taken for an empty one
      obtain ⟨c, cs, hcs, hspace, hc⟩ := chars_eq_cons x
      have hread : items? fuel ((itemChars (x :: xs)).map some ++ rest) = some (x :: xs, rest) :=
        items?_itemChars hitems rest (by omega)
      obtain ⟨ds, hds⟩ : ∃ ds, itemChars (x :: xs) = c :: ds := by
        cases xs <;> simp [itemChars, hcs]
      rw [hds, List.map_cons, List.cons_append] at hread ⊢
      simp only [skip_cons hspace]
      split
      · next h =>
        rw [List.cons.injEq, Option.some.injEq] at h
        exact absurd h.1 hc
      · rw [hread]
        rfl

/-- A member as it is read: its key is text. -/
def member (m : String × Json) : Option String × Json := (some m.1, m.2)

theorem objectOf_members (ms : List (String × Json)) : objectOf (ms.map member) = obj ms := by
  have hmapM : (ms.map member).mapM (fun m => m.1.map (·, m.2)) = some ms := by
    induction ms with
    | nil => rfl
    | cons m ms ih =>
      rw [List.map_cons, List.mapM_cons, ih]
      rfl
  simp only [objectOf]
  rw [hmapM]

/-- A member is read, and what stands behind its value decides whether there are more. -/
theorem members?_member (k : String) {v : Json} (hv : ReadBack v) (fuel : Nat) (hfuel : 2 * v.chars.length ≤ fuel)
    {rest : List (Option Char)} (hrest : EndsNumber rest) :
    members? (fuel + 1) ((quoted k.toList).map some ++ some ':' :: (v.chars.map some ++ rest)) =
      match skip rest with
      | some ',' :: rest => (members? fuel rest).map fun r => (member (k, v) :: r.1, r.2)
      | some '\x7d' :: rest => some ([member (k, v)], rest)
      | _ => none := by
  have hkey := pieces_quoted k.toList (some ':' :: (v.chars.map some ++ rest))
  simp only [quoted, List.map_cons, List.map_append, List.cons_append, List.append_assoc, List.map_nil,
    List.nil_append]
  rw [members?, skip_cons (by decide)]
  simp only [hkey, skip_cons (c := ':') (by decide), hv fuel rest hfuel hrest, textOf_chars, String.ofList_toList]
  rfl

/-- The members and the closing brace, if every value is read back. -/
theorem members?_memberChars {m : String × Json} {ms : List (String × Json)}
    (hms : ∀ x ∈ m :: ms, ReadBack x.2) (rest : List (Option Char)) {fuel : Nat}
    (hfuel : 2 * (memberChars (m :: ms)).length ≤ fuel) :
    members? fuel ((memberChars (m :: ms)).map some ++ rest) = some ((m :: ms).map member, rest) := by
  obtain ⟨k, v⟩ := m
  have hv : ReadBack v := hms (k, v) (by simp)
  induction ms generalizing k v fuel with
  | nil =>
    simp only [memberChars, List.length_append, List.length_cons] at hfuel
    cases fuel with
    | zero => omega
    | succ fuel =>
      have hread := members?_member k hv fuel (by omega) (endsNumber_cons (c := '\x7d') (by decide) rest)
      rw [skip_cons (by decide)] at hread
      simpa [memberChars] using hread
  | cons m' ms ih =>
    obtain ⟨k', v'⟩ := m'
    simp only [memberChars, List.length_append, List.length_cons] at hfuel
    cases fuel with
    | zero => omega
    | succ fuel =>
      have hms' : members? fuel ((memberChars ((k', v') :: ms)).map some ++ rest) =
          some (((k', v') :: ms).map member, rest) :=
        ih k' v' (fun x hx => hms x (List.mem_cons_of_mem _ hx)) (by omega) (hms (k', v') (by simp))
      have hread := members?_member k hv fuel (by omega) (endsNumber_cons (c := ',') (by decide)
        ((memberChars ((k', v') :: ms)).map some ++ rest))
      rw [skip_cons (by decide)] at hread
      simpa [memberChars, hms'] using hread

theorem readBack_obj {members : List (String × Json)} (hmembers : ∀ m ∈ members, ReadBack m.2) :
    ReadBack (obj members) := by
  intro fuel rest hfuel _
  simp only [chars, List.length_cons] at hfuel
  cases fuel with
  | zero => omega
  | succ fuel =>
    show value? (fuel + 1) (some '\x7b' :: ((memberChars members).map some ++ rest)) = _
    rw [value?, skip_cons (by decide)]
    cases members with
    | nil => rfl
    | cons m ms =>
      have hread : members? fuel ((memberChars (m :: ms)).map some ++ rest) =
          some ((m :: ms).map member, rest) := members?_memberChars hmembers rest (by omega)
      obtain ⟨cs, hcs⟩ : ∃ cs, memberChars (m :: ms) = '"' :: cs := by
        cases ms <;> exact ⟨_, rfl⟩
      rw [hcs, List.map_cons, List.cons_append] at hread ⊢
      simp only [skip_cons (c := '"') (by decide)]
      show (members? fuel (some '"' :: (cs.map some ++ rest))).map _ = _
      rw [hread, Option.map_some, objectOf_members]

theorem IsWritten.readBack {j : Json} (hj : j.IsWritten) : ReadBack j := by
  induction hj with
  | null =>
    intro fuel rest hfuel _
    cases fuel with
    | zero => cases hfuel
    | succ fuel => rfl
  | bool b =>
    intro fuel rest hfuel _
    cases fuel with
    | zero => cases b <;> cases hfuel
    | succ fuel => cases b <;> rfl
  | num h => exact readBack_num h
  | str s => exact readBack_str s
  | arr _ ih => exact readBack_arr ih
  | obj _ ih => exact readBack_obj ih

/-- Reading a written value gives the value. -/
theorem read?_chars {j : Json} (hj : j.IsWritten) : read? (j.chars.map some) = some j := by
  have hread := hj.readBack (2 * j.chars.length + 2) [] (by omega) fun c hc => by cases hc
  rw [List.append_nil] at hread
  simp [read?, hread, skip]

theorem parse?_write {j : Json} (hj : j.IsWritten) : parse? j.write = some j := by
  rw [parse?, write, String.toList_ofList, read?_chars hj]

theorem ofBytes?_chars {j : Json} (hj : j.IsWritten) : ofBytes? (Utf8.encode j.chars) = some j := by
  rw [ofBytes?, Utf8.decode_encode, read?_chars hj]

end Bearer.Json
