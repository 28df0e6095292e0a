import Bearer.Proofs.Cache.Shelf
/-! What a shelf shows is told by its history alone: under each key the text that was set last, until that has ended.
Setting sweeps away what has ended, here and under all other keys, but while the clock is not behind any of its
earlier readings nobody who reads can tell. -/

namespace Bearer.Shelf

/-- A span that a signed one can hold, ending within the calendar. -/
structure Fits (now : Instant) (ttl : Ttl) : Prop where
  span : (ttl.nanos : Int) ≤ 9223372036854775807 * 1000000
  calendar : now.nanos + ttl.nanos ≤ 8210266876799 * 1000000000 + 999999999

section

variable {now t : Instant} {ttl : Ttl}

/-- The calendar is shorter than the longest span, so what ends within it is no longer than that. -/
theorem fits_of_expiry (h : expiry now ttl = .ok t) : Fits now ttl := by
  have hend : t.nanos = now.nanos + ttl.nanos := expiry_eq_ok h
  have hlast := t.nanos_le
  have hfirst := now.le_nanos
  exact ⟨by omega, by omega⟩

theorem expiry_of_fits (h : Fits now ttl) : ∃ t, expiry now ttl = .ok t := by
  obtain ⟨hspan, hcalendar⟩ := h
  have hfirst := now.le_nanos
  have hd : ttl.toDuration? = some ⟨ttl.nanos, by omega, hspan⟩ := Duration.ofNanos?_eq_some.2 rfl
  have ht : now.add? ⟨ttl.nanos, by omega, hspan⟩ = some ⟨now.nanos + ttl.nanos, by omega, hcalendar⟩ :=
    Instant.add?_eq_some.2 rfl
  simp only [expiry, hd, ht]
  exact ⟨_, rfl⟩

theorem expiry_of_not_fits (h : ¬Fits now ttl) : ∃ m, expiry now ttl = .error (.internal m) := by
  cases ht : expiry now ttl with
  | ok t => exact absurd (fits_of_expiry ht) h
  | error f =>
    unfold expiry at ht
    split at ht
    · cases ht
      exact ⟨_, rfl⟩
    · split at ht
      · cases ht
        exact ⟨_, rfl⟩
      · cases ht

/-- A text is set exactly if its end can be said, and otherwise nothing is done. -/
theorem set_fst_eq_ok {s : Shelf} {key text : String} : (s.set now key text ttl).1 = .ok () ↔ Fits now ttl := by
  constructor
  · intro h
    cases ht : expiry now ttl with
    | ok t => exact fits_of_expiry ht
    | error f =>
      rw [set, ht] at h
      cases h
  · intro h
    obtain ⟨t, ht⟩ := expiry_of_fits h
    rw [set_of_expiry ht]

theorem set_eq_error {s : Shelf} {key text : String} :
    (∃ m, s.set now key text ttl = (.error (.internal m), s)) ↔ ¬Fits now ttl := by
  constructor
  · rintro ⟨m, h⟩ hfits
    have hok : (s.set now key text ttl).1 = .ok () := set_fst_eq_ok.2 hfits
    rw [h] at hok
    cases hok
  · intro h
    obtain ⟨m, hm⟩ := expiry_of_not_fits h
    exact ⟨m, by rw [set, hm]⟩

/-- Right behind a write no other entry has ended. -/
theorem lt_of_get?_set {s : Shelf} {key text : String} (h : (s.set now key text ttl).1 = .ok ()) {k : String}
    {e : Entry} (hk : k ≠ key) (he : (s.set now key text ttl).2.entries.get? k = some e) : now < e.expiresAt := by
  obtain ⟨t, ht⟩ := expiry_of_fits (set_fst_eq_ok.1 h)
  rw [set_of_expiry ht, Table.get?_insert, if_neg hk, Table.get?_filter] at he
  exact of_decide_eq_true (Option.filter_eq_some_iff.1 he).2

end

/-- A call of a shelf, with what the clock shows. -/
inductive Visit
  | get (now : Instant) (key : String)
  | set (now : Instant) (key text : String) (ttl : Ttl)

namespace Visit

def now : Visit → Instant
  | get now _ => now
  | set now .. => now

/-- What a visit puts under a key. -/
def puts? (key : String) : Visit → Option Entry
  | get .. => none
  | set now k text ttl => if k = key then (expiry now ttl).toOption.map (Entry.mk text) else none

theorem puts?_eq_some {key : String} {v : Visit} {e : Entry} :
    v.puts? key = some e ↔ ∃ now ttl, v = set now key e.text ttl ∧ expiry now ttl = .ok e.expiresAt := by
  constructor
  · intro h
    cases v with
    | get now k => cases h
    | set now k text ttl =>
      rw [puts?] at h
      split at h
      · next hk =>
        subst hk
        cases ht : expiry now ttl with
        | error f => simp [ht, Except.toOption] at h
        | ok t =>
          simp only [ht, Except.toOption, Option.map_some, Option.some.injEq] at h
          subst h
          exact ⟨now, ttl, rfl, ht⟩
      · cases h
  · rintro ⟨now, ttl, rfl, ht⟩
    simp [puts?, ht, Except.toOption]

theorem puts?_eq_none {key : String} {v : Visit} :
    v.puts? key = none ↔ ∀ now text ttl, v = set now key text ttl → ¬Fits now ttl := by
  constructor
  · rintro h now text ttl rfl hfits
    obtain ⟨t, ht⟩ := expiry_of_fits hfits
    simp [puts?, ht, Except.toOption] at h
  · intro h
    cases hv : v.puts? key with
    | none => rfl
    | some e =>
      obtain ⟨now, ttl, hset, ht⟩ := puts?_eq_some.1 hv
      exact absurd (fits_of_expiry ht) (h now e.text ttl hset)

/-- What was put under a key last, in a history told from its beginning. -/
def last? (key : String) : List Visit → Option Entry
  | [] => none
  | v :: visits => (last? key visits).or (v.puts? key)

theorem last?_eq_none {key : String} {visits : List Visit} :
    last? key visits = none ↔ ∀ v ∈ visits, v.puts? key = none := by
  induction visits with
  | nil => simp [last?]
  | cons v visits ih => rw [last?, Option.or_eq_none_iff, ih, List.forall_mem_cons, and_comm]

theorem last?_eq_some {key : String} {visits : List Visit} {e : Entry} :
    last? key visits = some e ↔
      ∃ before v after, visits = before ++ v :: after ∧ v.puts? key = some e ∧ ∀ w ∈ after, w.puts? key = none := by
  induction visits with
  | nil => simp [last?]
  | cons v visits ih =>
    rw [last?, Option.or_eq_some_iff, ih, last?_eq_none]
    constructor
    · rintro (⟨before, w, after, rfl, hw, hafter⟩ | ⟨hnone, hv⟩)
      · exact ⟨v :: before, w, after, rfl, hw, hafter⟩
      · exact ⟨[], v, visits, rfl, hv, hnone⟩
    · rintro ⟨before, w, after, hvisits, hw, hafter⟩
      cases before with
      | nil =>
        cases hvisits
        exact Or.inr ⟨hafter, hw⟩
      | cons u before =>
        cases hvisits
        exact Or.inl ⟨before, w, after, rfl, hw, hafter⟩

end Visit

/-- What a shelf shows of an entry. -/
def Entry.read (now : Instant) (e : Entry) : Option String := if now < e.expiresAt then some e.text else none

/-- The shelf behind a visit. -/
def visit (s : Shelf) : Visit → Shelf
  | .get .. => s
  | .set now key text ttl => (s.set now key text ttl).2

/-- The shelf behind the visits of a history. -/
def after (s : Shelf) (visits : List Visit) : Shelf := visits.foldl visit s

theorem after_append (s : Shelf) (xs ys : List Visit) : s.after (xs ++ ys) = (s.after xs).after ys :=
  List.foldl_append

variable {s : Shelf} {now : Instant} {key : String} {visits : List Visit}

/-- A visit shows under a key what it puts there, and otherwise nothing new. -/
theorem get_visit {v : Visit} (h : v.now ≤ now) :
    (s.visit v).get now key = ((v.puts? key).map (Entry.read now)).getD (s.get now key) := by
  cases v with
  | get time k => rfl
  | set time k text ttl =>
    rw [visit, Visit.puts?]
    split
    · next hk =>
      subst hk
      cases ht : expiry time ttl with
      | error f => rw [set, ht]; rfl
      | ok t =>
        rw [set_of_expiry ht, get, Table.get?_insert, if_pos rfl]
        by_cases hlive : now < t <;> simp [Except.toOption, Entry.read, Entry.isLive, hlive, Option.filter]
    · next hk => exact get_set_of_ne h (Ne.symm hk) text ttl

/-- As long as the clock is not behind what it has shown, a history decides what is shown by what it put there last. -/
theorem get_after (h : ∀ v ∈ visits, v.now ≤ now) :
    (s.after visits).get now key = ((Visit.last? key visits).map (Entry.read now)).getD (s.get now key) := by
  induction visits generalizing s with
  | nil => rfl
  | cons v visits ih =>
    obtain ⟨hv, hvisits⟩ := List.forall_mem_cons.1 h
    have hstep : (s.after (v :: visits)).get now key = ((s.visit v).after visits).get now key := rfl
    rw [hstep, ih hvisits, Visit.last?, get_visit hv]
    cases Visit.last? key visits <;> rfl

theorem Entry.read_eq_some {e : Entry} {text : String} : e.read now = some text ↔ now < e.expiresAt ∧ e.text = text := by
  rw [read]
  split <;> simp [*]

/-- A shelf that was empty at first shows a text under a key exactly if that text is the last that was set there with
success and has not ended by now, so neither the sweeping nor what was set before the last is ever seen. This needs no
more of the clock than that it is not behind what it has shown so far. A write fails, with an internal fault and
nothing done, exactly if its end cannot be said; and right behind a write that succeeds every other entry is one that
has not ended. -/
theorem get_after_empty_iff (visits : List Visit) (now : Instant) (hclock : ∀ v ∈ visits, v.now ≤ now) :
    (∀ key text, (empty.after visits).get now key = some text ↔
      ∃ before w ttl later, visits = before ++ .set w key text ttl :: later ∧ Fits w ttl ∧
        now.nanos < w.nanos + ttl.nanos ∧
        ∀ w' text' ttl', .set w' key text' ttl' ∈ later → ¬Fits w' ttl') ∧
    ∀ (s : Shelf) (key text : String) (ttl : Ttl),
      ((∃ m, s.set now key text ttl = (.error (.internal m), s)) ↔ ¬Fits now ttl) ∧
      ((s.set now key text ttl).1 = .ok () ↔ Fits now ttl) ∧
      ((s.set now key text ttl).1 = .ok () → ∀ k e, k ≠ key →
        (s.set now key text ttl).2.entries.get? k = some e → now < e.expiresAt) := by
  refine ⟨fun key text => ?_, fun s key text ttl => ⟨set_eq_error, set_fst_eq_ok, fun h k e => lt_of_get?_set h⟩⟩
  have hshown : (empty.after visits).get now key = some text ↔
      ∃ e, Visit.last? key visits = some e ∧ now < e.expiresAt ∧ e.text = text := by
    rw [get_after hclock]
    cases Visit.last? key visits with
    | none => simp [get, empty]
    | some e => simp [Entry.read_eq_some]
  rw [hshown]
  constructor
  · rintro ⟨e, he, hlive, rfl⟩
    obtain ⟨before, v, later, rfl, hv, hlater⟩ := Visit.last?_eq_some.1 he
    obtain ⟨w, ttl, rfl, ht⟩ := Visit.puts?_eq_some.1 hv
    refine ⟨before, w, ttl, later, rfl, fits_of_expiry ht, expiry_eq_ok ht ▸ hlive, ?_⟩
    intro w' text' ttl' hmem
    exact Visit.puts?_eq_none.1 (hlater _ hmem) w' text' ttl' rfl
  · rintro ⟨before, w, ttl, later, rfl, hfits, hlive, hlater⟩
    obtain ⟨t, ht⟩ := expiry_of_fits hfits
    have hlast : Visit.last? key (before ++ .set w key text ttl :: later) = some ⟨text, t⟩ := by
      refine Visit.last?_eq_some.2 ⟨before, _, later, rfl, Visit.puts?_eq_some.2 ⟨w, ttl, rfl, ht⟩, ?_⟩
      intro v hv
      refine Visit.puts?_eq_none.2 ?_
      rintro w' text' ttl' rfl
      exact hlater w' text' ttl' hv
    refine ⟨_, hlast, ?_, rfl⟩
    rw [Instant.lt_def, expiry_eq_ok ht]
    exact hlive

/-- A text that would stay for a hundred nanoseconds is replaced by one that stays for ten, which a write with no end
leaves alone and two writes under another key do not sweep away. -/
theorem get_after_empty_iff_overwritten :
    ∃ (visits : List Visit) (now later : Instant), now.nanos = 10 ∧ later.nanos = 11 ∧
      (∀ v ∈ visits, v.now ≤ now) ∧ .set Instant.epoch "k" "old" ⟨100⟩ ∈ visits ∧
      (empty.after visits).get now "k" = some "new" ∧ (empty.after visits).get later "k" = none := by
  let visits : List Visit := [.set Instant.epoch "k" "old" ⟨100⟩, .set ⟨1, by omega, by omega⟩ "k" "new" ⟨10⟩,
    .set ⟨2, by omega, by omega⟩ "k" "endless" ⟨10 ^ 30⟩, .set ⟨5, by omega, by omega⟩ "j" "x" ⟨1⟩,
    .get ⟨6, by omega, by omega⟩ "j", .set ⟨7, by omega, by omega⟩ "j" "y" ⟨0⟩]
  have hclock : ∀ v ∈ visits, v.now ≤ ⟨10, by omega, by omega⟩ := by decide
  refine ⟨visits, _, ⟨11, by omega, by omega⟩, rfl, rfl, hclock, by simp [visits], ?_, by decide +kernel⟩
  refine ((get_after_empty_iff visits _ hclock).1 "k" "new").2
    ⟨visits.take 1, _, ⟨10⟩, visits.drop 2, rfl, ⟨by decide, by decide⟩, by decide, ?_⟩
  intro w text ttl hmem hfits
  simp only [visits, List.drop_succ_cons, List.drop_zero, List.mem_cons, Visit.set.injEq, reduceCtorEq,
    List.not_mem_nil, false_or, or_false] at hmem
  rcases hmem with ⟨rfl, -, rfl, rfl⟩ | ⟨-, hk, -⟩ | ⟨-, hk, -⟩
  · exact absurd hfits.span (by decide)
  · exact absurd hk (by decide)
  · exact absurd hk (by decide)

end Bearer.Shelf
