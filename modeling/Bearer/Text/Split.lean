/-! Finding a text inside another. `splitFirst?_eq_some` says that what is found is what stands there. -/

namespace Bearer.Text

/-- Whether a text stands at the front of another, and what follows it. -/
def afterFront? (front s : List Char) : Option (List Char) :=
  match front, s with
  | [], rest => some rest
  | _ :: _, [] => none
  | f :: fs, c :: cs => if f = c then afterFront? fs cs else none

/-- The parts before and after the first occurrence of a non-empty mark. -/
def splitFirst? (mark : List Char) : List Char → Option (List Char × List Char)
  | [] => if mark.isEmpty then some ([], []) else none
  | c :: cs =>
    match afterFront? mark (c :: cs) with
    | some rest => some ([], rest)
    | none => (splitFirst? mark cs).map fun (before, after) => (c :: before, after)

theorem afterFront?_eq_some {front s rest : List Char} (h : afterFront? front s = some rest) :
    s = front ++ rest := by
  fun_induction afterFront? front s with
  | case1 => simp_all
  | case2 => simp at h
  | case3 fs c cs ih => simp [ih h]
  | case4 => simp at h

theorem splitFirst?_eq_some {mark s before after : List Char}
    (h : splitFirst? mark s = some (before, after)) : s = before ++ mark ++ after := by
  induction s generalizing before with
  | nil => simp only [splitFirst?] at h; split at h <;> simp_all
  | cons c cs ih =>
    simp only [splitFirst?] at h
    split at h
    · rename_i rest hr
      simp only [Option.some.injEq, Prod.mk.injEq] at h
      obtain ⟨rfl, rfl⟩ := h
      simpa using afterFront?_eq_some hr
    · obtain ⟨⟨b, a⟩, hb, heq⟩ := Option.map_eq_some_iff.1 h
      simp only [Prod.mk.injEq] at heq
      obtain ⟨rfl, rfl⟩ := heq
      simp [ih hb]

end Bearer.Text
