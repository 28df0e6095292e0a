import Bearer.Settings.Load
/-! How many connections to the database there may be, and how many of them are kept open while idle. Whoever sets the
former brings the latter within it. The environment variables set the former alone, so it is only through them that
the two can be at odds, and only until the limit is set anew. -/

namespace Bearer.Settings

namespace Database

/-- No more connections are kept open than there may be. -/
def InBounds (d : Database) : Prop := d.minConnections ≤ d.maxConnections

instance (d : Database) : Decidable d.InBounds := inferInstanceAs (Decidable (d.minConnections ≤ d.maxConnections))

/-- The settings with limits put on the connections, one after another. -/
def limited (d : Database) (limits : List UInt32) : Database := limits.foldl withMaxConnections d

variable (d : Database)

/-- A limit puts the bounds in order, whatever they were. -/
theorem inBounds_withMaxConnections (n : UInt32) : (d.withMaxConnections n).InBounds := by
  show (if d.minConnections ≤ n then d.minConnections else n) ≤ n
  split
  · next h => exact h
  · exact UInt32.le_refl n

theorem limited_concat (limits : List UInt32) (n : UInt32) :
    d.limited (limits ++ [n]) = (d.limited limits).withMaxConnections n := by
  simp [limited]

theorem inBounds_limited_iff (limits : List UInt32) : (d.limited limits).InBounds ↔ limits ≠ [] ∨ d.InBounds := by
  rcases List.eq_nil_or_concat limits with rfl | ⟨before, n, rfl⟩
  · simp [limited]
  · rw [List.concat_eq_append, limited_concat]
    exact iff_of_true (inBounds_withMaxConnections _ n) (Or.inl (by simp))

theorem maxConnections_limited (limits : List UInt32) :
    (d.limited limits).maxConnections = limits.getLast?.getD d.maxConnections := by
  rcases List.eq_nil_or_concat limits with rfl | ⟨before, n, rfl⟩
  · rfl
  · rw [List.concat_eq_append, limited_concat, List.getLast?_concat]
    rfl

theorem minConnections_limited (limits : List UInt32) :
    (d.limited limits).minConnections = limits.foldl min d.minConnections := by
  induction limits generalizing d with
  | nil => rfl
  | cons n limits ih => exact ih (d.withMaxConnections n)

end Database

namespace Variables

variable (v : Variables)

/-- The variables allow no connection at all: they open the section of the database, and their limit reads as zero. -/
def AllowsNone : Prop :=
  (v.get? "DATABASE_URL").isSome = true ∧ (v.get? "DATABASE_MAX_CONNECTIONS").bind (Text.unsigned? 32) = some 0

/-- A word is zero only where a zero was read. -/
theorem word32_eq_zero {name : String} {fallback : UInt32} (hfallback : fallback ≠ 0) :
    v.word32 name fallback = 0 ↔ (v.get? name).bind (Text.unsigned? 32) = some 0 := by
  have hword : v.word32 name fallback = (((v.get? name).bind (Text.unsigned? 32)).map Nat.toUInt32).getD fallback := by
    rw [word32, parsed, Option.map_bind]
    rfl
  have hlt : ∀ n, (v.get? name).bind (Text.unsigned? 32) = some n → n < 2 ^ 32 := by
    intro n hn
    obtain ⟨s, -, hs⟩ := Option.bind_eq_some_iff.1 hn
    obtain ⟨-, hlt⟩ := Option.filter_eq_some_iff.1 hs
    exact of_decide_eq_true hlt
  rw [hword]
  cases hread : (v.get? name).bind (Text.unsigned? 32) with
  | none => exact iff_of_false hfallback (by simp)
  | some n =>
    have hzero : n.toUInt32 = 0 ↔ n = 0 := by
      rw [← UInt32.toNat_inj]
      show n % 2 ^ 32 = 0 ↔ n = 0
      rw [Nat.mod_eq_of_lt (hlt n hread)]
    simpa using hzero

end Variables

section

variable (v : Variables)

theorem minConnections_ofVariables : (ofVariables v).database.minConnections = 1 := by
  have hpreset : ∀ e, (preset e).database.minConnections = 1 := by
    intro e
    cases e <;> rfl
  show (if (v.get? "DATABASE_URL").isSome then v.database else (preset v.environment).database).minConnections = 1
  split
  · rfl
  · exact hpreset v.environment

theorem maxConnections_ofVariables : (ofVariables v).database.maxConnections = 0 ↔ v.AllowsNone := by
  have hpreset : ∀ e, (preset e).database.maxConnections ≠ 0 := by
    intro e
    cases e <;> decide
  show (if (v.get? "DATABASE_URL").isSome then v.database else (preset v.environment).database).maxConnections = 0 ↔ _
  unfold Variables.AllowsNone
  split
  · next hopen =>
    rw [and_iff_right hopen]
    exact v.word32_eq_zero (by decide)
  · next hclosed => exact iff_of_false (hpreset v.environment) fun h => hclosed h.1

/-- As the variables give them, the bounds are in order unless no connection is allowed. -/
theorem inBounds_ofVariables_iff : (ofVariables v).database.InBounds ↔ ¬v.AllowsNone := by
  rw [← maxConnections_ofVariables, Database.InBounds, minConnections_ofVariables, UInt32.le_iff_toNat_le,
    ← UInt32.toNat_inj]
  show 1 ≤ _ ↔ ¬_ = 0
  omega

end

/-- The bounds on the connections to a database, after any number of limits have been put on what is built in, on an
address, or on what the variables and the file that sets some give. At least one connection is kept open unless a
limit of zero was among them, and what is kept open is within what there may be, with one exception: the variables
allow no connection, and no limit has been put on them since. -/
theorem connections_in_bounds (v : Variables) (files : Files) (url : String) (limits : List UInt32) :
    (Database.standard.limited limits).InBounds ∧ ((Database.ofUrl url).limited limits).InBounds ∧
      let d := (ofVariables (v.completed files)).database
      (d.limited limits).minConnections = limits.foldl min 1 ∧
        (d.limited limits).maxConnections = limits.getLast?.getD d.maxConnections ∧
        (d.maxConnections = 0 ↔ (v.completed files).AllowsNone) ∧
        ((d.limited limits).InBounds ↔ limits ≠ [] ∨ ¬(v.completed files).AllowsNone) := by
  have hurl : (Database.ofUrl url).InBounds := show (1 : UInt32) ≤ 10 by decide
  refine ⟨(Database.inBounds_limited_iff _ limits).2 (Or.inr (by decide)),
    (Database.inBounds_limited_iff _ limits).2 (Or.inr hurl), ?_, Database.maxConnections_limited _ limits,
    maxConnections_ofVariables _, ?_⟩
  · rw [Database.minConnections_limited, minConnections_ofVariables]
  · rw [Database.inBounds_limited_iff, inBounds_ofVariables_iff]

/-- One connection is kept open where there may be none. -/
example :
    ¬(ofVariables (.ofList [("DATABASE_URL", "mysql://db/x"), ("DATABASE_MAX_CONNECTIONS", "0")])).database.InBounds := by
  decide +kernel

end Bearer.Settings
