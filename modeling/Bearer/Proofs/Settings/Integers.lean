import Bearer.Proofs.Decimal.Large
import Bearer.Proofs.Settings.Given
import Bearer.Proofs.Text.Whole
import Mathlib.Tactic.SplitIfs
/-! Whole numbers that are given for settings. A number from the settings file is cut to the bits that the setting has. One
from a variable is, if it needs more than 63 bits, first rounded as a fraction would be, and put between the bounds of
64 bits. Nobody looks whether it is still the number that was given. -/

namespace Bearer.Settings

open Value

/-- The bits of a setting that is a whole number; of 64 bits one can be for the sign. -/
inductive Width
  | unsigned (bits : Nat) (h : bits ≤ 64)
  | signed

/-! Reading. -/

theorem clamp_bounds {low high : Int} (hle : low ≤ high) (n : Int) : low ≤ clamp low high n ∧ clamp low high n ≤ high := by
  unfold clamp
  omega

/-- Whatever it is read from, a number is within the bounds. -/
theorem number?_bounds {low high n : Int} (hlow : low ≤ 0) (hhigh : 1 ≤ high) {read : String → Option Int}
    (hread : ∀ s, read s = some n → low ≤ n ∧ n ≤ high) {v : Value} (h : number? low high read v = some n) :
    low ≤ n ∧ n ≤ high := by
  have hflag (b : Bool) : low ≤ b.toNat ∧ (b.toNat : Int) ≤ high := by
    have hle := b.toNat_le
    omega
  cases v with
  | nil | array _ | table _ => cases h
  | int m =>
    rw [number?] at h
    split at h
    · next hbounds => exact Option.some.inj h ▸ hbounds
    · cases h
  | flag b =>
    cases h
    exact hflag b
  | float x =>
    cases h
    split
    · exact ⟨hlow, by omega⟩
    · split <;> omega
    · exact clamp_bounds (by omega) _
  | text s =>
    rw [number?] at h
    split at h
    · next b _ =>
      cases h
      exact hflag b
    · exact hread s h

namespace Width

/-- The least number that is taken. -/
def low : Width → Int
  | unsigned _ _ => 0
  | signed => -2 ^ 63

/-- The largest number that is taken. -/
def high : Width → Int
  | unsigned _ _ => 2 ^ 64 - 1
  | signed => 2 ^ 63 - 1

/-- The bits of a number for which there is room. -/
def cut : Width → Int → Int
  | unsigned bits _, n => n % 2 ^ bits
  | signed, n => n

/-- There is room for all bits of a number. -/
def Holds : Width → Int → Prop
  | unsigned bits _, n => 0 ≤ n ∧ n < 2 ^ bits
  | signed, n => -2 ^ 63 ≤ n ∧ n < 2 ^ 63

/-- What is read of a value. -/
def read? : Width → Value → Option Int
  | unsigned bits _, v => (unsigned? bits v).map fun n : Nat => (n : Int)
  | signed, v => signed? v

end Width

/-! The settings that are whole numbers. -/

/-- A setting that is a whole number. -/
structure Whole where
  leaf : Leaf Settings
  width : Width
  number : leaf.Content → Int
  read_number : ∀ {v : Value} {a : leaf.Content}, leaf.kind.read v = some a → width.read? v = some (number a)

namespace Whole

def path (w : Whole) : List String := w.leaf.path

def get (w : Whole) (s : Settings) : Int := w.number (w.leaf.get s)

theorem unsigned?_lt {bits n : Nat} {v : Value} (h : unsigned? bits v = some n) : n < 2 ^ bits := by
  obtain ⟨m, -, rfl⟩ := Option.map_eq_some_iff.1 h
  exact Nat.mod_lt _ (Nat.two_pow_pos bits)

theorem unsigned?_of_read {bits : Nat} {α : Type} {ofNat : Nat → α} {toNat : α → Nat}
    {h : ∀ a, ofNat (toNat a % 2 ^ bits) = a} (hback : ∀ n < 2 ^ bits, toNat (ofNat n) = n) {v : Value} {a : α}
    (hread : (Kind.unsigned bits ofNat toNat h).read v = some a) : unsigned? bits v = some (toNat a) := by
  obtain ⟨n, hn, rfl⟩ := Option.map_eq_some_iff.1 hread
  rw [hn, hback n (unsigned?_lt hn)]

/-- A number without a sign. -/
def word (bits : Nat) (hbits : bits ≤ 64) {α : Type} (kind : Kind α) (toNat : α → Nat)
    (h : ∀ {v : Value} {a : α}, kind.read v = some a → unsigned? bits v = some (toNat a)) (path : List String)
    (get : Settings → α) : Whole where
  leaf := ⟨path, α, kind, get⟩
  width := .unsigned bits hbits
  number a := toNat a
  read_number hread := by rw [Width.read?, h hread, Option.map_some]

def word16 : List String → (Settings → UInt16) → Whole :=
  word 16 (Nat.le_add_right 16 48) .word16 UInt16.toNat (unsigned?_of_read fun _ h => Nat.mod_eq_of_lt h)

def word32 : List String → (Settings → UInt32) → Whole :=
  word 32 (Nat.le_add_right 32 32) .word32 UInt32.toNat (unsigned?_of_read fun _ h => Nat.mod_eq_of_lt h)

def word64 : List String → (Settings → UInt64) → Whole :=
  word 64 (Nat.le_refl 64) .word64 UInt64.toNat (unsigned?_of_read fun _ h => Nat.mod_eq_of_lt h)

/-- A text that is read as a number with a sign is one of 64 bits, and so is any other value. -/
theorem isSigned_of_signed? {n : Int} {v : Value} (h : signed? v = some n) : Bits.isSigned 64 n = true := by
  have hbounds := number?_bounds (n := n) (by decide) (by decide) (fun s hs => ?_) h
  · exact decide_eq_true ⟨hbounds.1, Int.lt_of_le_sub_one hbounds.2⟩
  · rw [Text.signed?_eq, Option.filter_eq_some_iff] at hs
    obtain ⟨hle, hlt⟩ := of_decide_eq_true hs.2
    exact ⟨hle, Int.le_sub_one_of_lt hlt⟩

def signed64 (path : List String) (get : Settings → Int64) : Whole where
  leaf := ⟨path, _, .signed64, get⟩
  width := .signed
  number := Int64.toInt
  read_number hread := by
    obtain ⟨n, hn, rfl⟩ := Option.map_eq_some_iff.1 hread
    obtain ⟨hle, hlt⟩ := of_decide_eq_true (isSigned_of_signed? hn)
    rw [Width.read?, hn, Int64.toInt_ofInt_of_le hle hlt]

end Whole

/-- All settings that are whole numbers. -/
def wholes : List Whole :=
  [.word16 ["server", "port"] (·.server.port), .word64 ["server", "workers"] (·.server.workers),
    .word64 ["server", "keep_alive"] (·.server.keepAlive),
    .word64 ["server", "max_payload_size"] (·.server.maxPayload),
    .word32 ["database", "max_connections"] (·.database.maxConnections),
    .word32 ["database", "min_connections"] (·.database.minConnections),
    .word64 ["database", "connect_timeout"] (·.database.connectTimeout),
    .word64 ["database", "idle_timeout"] (·.database.idleTimeout),
    .word64 ["database", "max_lifetime"] (·.database.maxLifetime),
    .word64 ["database", "slow_query_threshold"] (·.database.slowQuery),
    .signed64 ["auth", "jwt", "access_token_expiry"] (·.jwt.accessExpiry),
    .signed64 ["auth", "jwt", "refresh_token_expiry"] (·.jwt.refreshExpiry),
    .word64 ["auth", "jwt", "refresh_token_bytes"] (·.jwt.refreshBytes),
    .word32 ["cache", "max_retries"] (·.cache.maxRetries), .word64 ["cache", "retry_delay_ms"] (·.cache.retryDelay),
    .word64 ["cache", "default_ttl"] (·.cache.ttl)]

theorem leaf_mem_leaves : ∀ w ∈ wholes, w.leaf ∈ leaves := by
  simp only [wholes, List.forall_mem_cons]
  refine ⟨?_, ?_, ?_, ?_, ?_, ?_, ?_, ?_, ?_, ?_, ?_, ?_, ?_, ?_, ?_, ?_, List.forall_mem_nil _⟩ <;>
  simp [leaves, Server.leaves, Database.leaves, Jwt.leaves, Cache.leaves, Leaf.under, Whole.word16, Whole.word32,
    Whole.word64, Whole.signed64, Whole.word, Kind.word16, Kind.word32, Kind.word64]

/-! What numbers come to. -/

/-- The nearest multiple of 2048. -/
def coarse (n : Int) : Int :=
  let size := 2048 * Binary64.divEven n.natAbs 2048
  if n < 0 then -(size : Int) else size

/-- What the text of a variable says, between bounds. -/
def settled (low high n : Int) : Int := clamp low high (if Bits.isSigned 64 n then n else coarse n)

theorem isSigned_iff {n : Int} : Bits.isSigned 64 n = true ↔ -2 ^ 63 ≤ n ∧ n < 2 ^ 63 := decide_eq_true_iff

/-- A number that is too large for 63 bits is layered as a fraction. -/
theorem ofText_of_whole {text : String} {n : Int} (h : Text.whole? text = some n) : ofText text =
    if Bits.isSigned 64 n then int n else float (.ofDecimal (decide (n < 0)) n.natAbs 0) := by
  obtain ⟨negative, m, hn, hparse⟩ := Text.exists_size h
  unfold ofText
  rw [Text.lower_of_whole h]
  split
  · have hnone : Text.whole? "true" = none := by decide
    rw [hnone] at h
    cases h
  · have hnone : Text.whole? "false" = none := by decide
    rw [hnone] at h
    cases h
  · rw [Text.signed?_eq, h, Option.filter_some]
    cases hsigned : Bits.isSigned 64 n with
    | true => rfl
    | false =>
      have hlarge := mt isSigned_iff.2 (Bool.eq_false_iff.1 hsigned)
      have hsign : negative = decide (n < 0) := by
        cases negative <;> simp at hn ⊢ <;> omega
      have hsize : m = n.natAbs := by
        cases negative <;> simp at hn <;> omega
      simp only [Bool.false_eq_true, if_false, hparse, hsign, hsize]

section

variable {low high : Int} (hle : low ≤ high) (hlow : -2 ^ 63 ≤ low) (hhigh : high ≤ 2 ^ 64 - 1)

include hle hlow hhigh

/-- As a fraction it is a multiple of 2048, as long as it is within the bounds. -/
theorem number?_of_large {n : Int} (hn : Bits.isSigned 64 n = false) (read : String → Option Int) :
    number? low high read (float (.ofDecimal (decide (n < 0)) n.natAbs 0)) = some (settled low high n) := by
  have hlarge : 2 ^ 63 ≤ n.natAbs := by
    have := mt isSigned_iff.2 (Bool.eq_false_iff.1 hn)
    omega
  obtain ⟨hfloor, -⟩ := Binary64.divEven_bounds n.natAbs 2048
  have hsettled : settled low high n = clamp low high (coarse n) := by
    rw [settled, hn]
    rfl
  rw [hsettled]
  rcases Binary64.ofDecimal_of_large hlarge (decide (n < 0)) with ⟨hof, hmore⟩ | ⟨m, q, r, hof, hround, hrounded⟩
  · rw [hof]
    show some (if decide (n < 0) then low else high) = _
    simp only [clamp, coarse, decide_eq_true_eq]
    split <;> apply congrArg some <;> omega
  · have hbelow := hrounded.below
    have habove := hrounded.above
    rw [hof]
    show some (clamp low high ((Binary64.finite (decide (n < 0)) m q).round.getD 0)) = _
    rw [hround]
    simp only [clamp, coarse, decide_eq_true_eq, Option.getD_some]
    split <;> apply congrArg some <;> omega

end

namespace Width

variable {w : Width} {n m : Int}

theorem bounds (w : Width) : w.low ≤ w.high ∧ -2 ^ 63 ≤ w.low ∧ w.high ≤ 2 ^ 64 - 1 := by
  cases w <;> simp [low, high]

/-- A number is read between bounds and then cut to the bits. -/
theorem number?_of_read? {v : Value} (h : w.read? v = some m) :
    ∃ read n, number? w.low w.high read v = some n ∧ (w.low ≤ n → m = w.cut n) := by
  cases w with
  | signed => exact ⟨_, m, h, fun _ => rfl⟩
  | unsigned bits hbits =>
    obtain ⟨i, hi, rfl⟩ := Option.map_eq_some_iff.1 h
    obtain ⟨j, hj, rfl⟩ := Option.map_eq_some_iff.1 hi
    refine ⟨_, j, hj, fun hlow => ?_⟩
    show ((j.toNat % 2 ^ bits : Nat) : Int) = j % 2 ^ bits
    rw [Int.natCast_emod, Int.toNat_of_nonneg hlow]
    norm_cast

/-- A number that is layered as one is taken between the bounds. -/
theorem read?_int (h : w.read? (int n) = some m) : (w.low ≤ n ∧ n ≤ w.high) ∧ m = w.cut n := by
  obtain ⟨read, i, hi, hm⟩ := number?_of_read? h
  rw [number?] at hi
  split at hi
  · next hbounds =>
    cases hi
    exact ⟨hbounds, hm hbounds.1⟩
  · cases hi

theorem settled_of_isSigned (hsigned : Bits.isSigned 64 n = true) (hn : w.low ≤ n ∧ n ≤ w.high) :
    settled w.low w.high n = n := by
  rw [settled, if_pos hsigned, clamp]
  omega

/-- So is a number in the text of a variable, which is settled before. -/
theorem read?_ofText {text : String} (htext : Text.whole? text = some n) (h : w.read? (ofText text) = some m) :
    (Bits.isSigned 64 n = true → w.low ≤ n ∧ n ≤ w.high) ∧ m = w.cut (settled w.low w.high n) := by
  rw [ofText_of_whole htext] at h
  cases hsigned : Bits.isSigned 64 n with
  | true =>
    rw [hsigned] at h
    obtain ⟨hbounds, hm⟩ := read?_int h
    exact ⟨fun _ => hbounds, (settled_of_isSigned hsigned hbounds).symm ▸ hm⟩
  | false =>
    rw [hsigned] at h
    obtain ⟨hle, hlow, hhigh⟩ := w.bounds
    obtain ⟨read, i, hi, hm⟩ := number?_of_read? h
    obtain rfl : settled w.low w.high n = i :=
      Option.some.inj ((number?_of_large hle hlow hhigh hsigned read).symm.trans hi)
    exact ⟨fun hfalse => (Bool.false_ne_true hfalse).elim, hm (clamp_bounds hle _).1⟩

theorem cut_eq_self_iff (hn : w.low ≤ n ∧ n ≤ w.high) : w.cut n = n ↔ w.Holds n := by
  cases w with
  | signed => exact iff_of_true rfl ⟨hn.1, Int.lt_of_le_sub_one hn.2⟩
  | unsigned bits hbits =>
    have hpos : (0 : Int) < 2 ^ bits := Int.pow_pos (by decide)
    constructor
    · intro h
      exact ⟨hn.1, h ▸ Int.emod_lt_of_pos n hpos⟩
    · intro h
      exact Int.emod_eq_of_lt h.1 h.2

/-- What is cut fits. -/
theorem holds_cut (hn : w.low ≤ n ∧ n ≤ w.high) : w.Holds (w.cut n) := by
  cases w with
  | signed => exact ⟨hn.1, Int.lt_of_le_sub_one hn.2⟩
  | unsigned bits hbits =>
    have hpos : (0 : Int) < 2 ^ bits := Int.pow_pos (by decide)
    exact ⟨Int.emod_nonneg n (Int.ne_of_gt hpos), Int.emod_lt_of_pos n hpos⟩

theorem two_pow_le {bits k : Nat} (h : bits ≤ k) : (2 : Int) ^ bits ≤ 2 ^ k := by
  exact_mod_cast Nat.pow_le_pow_right (by decide) h

theorem bounds_of_holds (h : w.Holds n) : w.low ≤ n ∧ n ≤ w.high := by
  cases w with
  | signed => exact ⟨h.1, Int.le_sub_one_of_lt h.2⟩
  | unsigned bits hbits =>
    exact ⟨h.1, Int.le_sub_one_of_lt (Int.lt_of_lt_of_le h.2 (two_pow_le hbits))⟩

/-- Where a number of more than 63 bits fits, there is room for all 64. -/
theorem word64_of_holds (h : w.Holds n) (hn : 2 ^ 63 ≤ n) : w = .unsigned 64 (Nat.le_refl 64) := by
  cases w with
  | signed => exact absurd h.2 (Int.not_lt.2 hn)
  | unsigned bits hbits =>
    have hall : ¬bits ≤ 63 := fun hless => absurd (Int.lt_of_lt_of_le h.2 (two_pow_le hless)) (Int.not_lt.2 hn)
    obtain rfl : bits = 64 := by omega
    rfl

/-- Of the numbers of 64 bits that need them all, multiples of 2048 are settled as they are, and so is the largest. -/
theorem settled_eq_self_iff (hn : 2 ^ 63 ≤ n) (hmost : n ≤ 2 ^ 64 - 1) :
    settled 0 (2 ^ 64 - 1) n = n ↔ 2048 ∣ n ∨ n = 2 ^ 64 - 1 := by
  have hsigned : ¬Bits.isSigned 64 n = true := mt isSigned_iff.1 (by omega)
  rw [settled, if_neg hsigned]
  simp only [clamp, coarse, Binary64.divEven]
  split_ifs <;> omega

/-- A text gives its number just if there is room for it and it does not need rounding. -/
theorem cut_settled_eq_self_iff (hn : Bits.isSigned 64 n = true → w.low ≤ n ∧ n ≤ w.high) :
    w.cut (settled w.low w.high n) = n ↔ w.Holds n ∧ (n < 2 ^ 63 ∨ 2048 ∣ n ∨ n = 2 ^ 64 - 1) := by
  obtain ⟨hle, hlow, hhigh⟩ := w.bounds
  by_cases hsigned : Bits.isSigned 64 n = true
  · have hsmall := isSigned_iff.1 hsigned
    rw [settled_of_isSigned hsigned (hn hsigned), cut_eq_self_iff (hn hsigned)]
    exact (and_iff_left (.inl hsmall.2)).symm
  · -- a number that fits although it needs more than 63 bits is one of the 64 bits without a sign
    have hlarge : w.Holds n → 2 ^ 63 ≤ n ∧ n ≤ 2 ^ 64 - 1 := by
      intro hholds
      have hbounds := bounds_of_holds hholds
      have hbits := mt isSigned_iff.2 hsigned
      omega
    have hbounds := clamp_bounds hle (if Bits.isSigned 64 n then n else coarse n)
    constructor
    · intro hsame
      have hholds : w.Holds n := hsame ▸ holds_cut hbounds
      obtain ⟨hmore, hmost⟩ := hlarge hholds
      obtain rfl := word64_of_holds hholds hmore
      refine ⟨hholds, .inr ((settled_eq_self_iff hmore hmost).1 ?_)⟩
      have hroom := (cut_eq_self_iff hbounds).2 ⟨hbounds.1, Int.lt_of_le_sub_one hbounds.2⟩
      exact hroom.symm.trans hsame
    · rintro ⟨hholds, hfits⟩
      obtain ⟨hmore, hmost⟩ := hlarge hholds
      obtain rfl := word64_of_holds hholds hmore
      have hsettled := (settled_eq_self_iff hmore hmost).2 (hfits.resolve_left (Int.not_lt.2 hmore))
      show cut _ (settled 0 (2 ^ 64 - 1) n) = n
      rw [hsettled]
      exact (cut_eq_self_iff (bounds_of_holds hholds)).2 hholds

end Width

/-! Loading. -/

/-- A whole number that the file or a variable gives for a setting is refused or it is cut to the bits of the setting, so
that the setting is what was given only where there is room for it. In the text of a variable a number of more than 63
bits is settled before, and then it must be a multiple of 2048 or the largest one, too. -/
theorem wholes_of_load {v : Variables} {files : Files} {file : Entries} {s : Settings} (h : load v files = .ok s)
    (hfile : fileLayer files (ofVariables (v.completed files)).environment = .ok file) {w : Whole} (hw : w ∈ wholes)
    (n : Int) :
    (Gives file w.path (int n) → Unnamed (v.completed files) w.path →
      (w.width.low ≤ n ∧ n ≤ w.width.high) ∧ w.get s = w.width.cut n ∧ (w.get s = n ↔ w.width.Holds n)) ∧
    ∀ text, Text.whole? text = some n → Named (v.completed files) w.path text →
      (Bits.isSigned 64 n = true → w.width.low ≤ n ∧ n ≤ w.width.high) ∧
      w.get s = w.width.cut (settled w.width.low w.width.high n) ∧
      (w.get s = n ↔ w.width.Holds n ∧ (n < 2 ^ 63 ∨ 2048 ∣ n ∨ n = 2 ^ 64 - 1)) := by
  have hleaf := leaf_mem_leaves w hw
  constructor
  · intro hgives hunnamed
    have hread := w.read_number (read_of_filed h hfile hleaf hgives rfl hunnamed)
    obtain ⟨hbounds, hcut⟩ := Width.read?_int hread
    refine ⟨hbounds, hcut, ?_⟩
    rw [← Width.cut_eq_self_iff hbounds, ← hcut]
    rfl
  · intro text htext hnamed
    have hread := w.read_number (read_of_named h hfile hleaf hnamed)
    obtain ⟨hbounds, hcut⟩ := Width.read?_ofText htext hread
    refine ⟨hbounds, hcut, ?_⟩
    rw [← Width.cut_settled_eq_self_iff hbounds, ← hcut]
    rfl

/-- The number that a value is, where it is one. -/
def asInt? : Value → Option Int
  | int n => some n
  | _ => none

/-- A port that is too large for 16 bits, in a file, and the number of workers after 2^63, in a variable. -/
theorem wholes_of_load_cut :
    (∃ files s file, load .empty files = .ok s ∧
      fileLayer files (ofVariables (.completed .empty files)).environment = .ok file ∧
      Gives file ["server", "port"] (int 70000) ∧ Unnamed (.completed .empty files) ["server", "port"] ∧
      (s.server.port.toNat : Int) = 4464) ∧
    ∃ v s, load v .empty = .ok s ∧ fileLayer .empty (ofVariables (v.completed .empty)).environment = .ok [] ∧
      Text.whole? "9223372036854775809" = some 9223372036854775809 ∧
      Named (v.completed .empty) ["server", "workers"] "9223372036854775809" ∧
      (s.server.workers.toNat : Int) = 9223372036854775808 := by
  constructor
  · let files : Files := .ofList [("config.development.toml", "[server]\nport = 70000\n")]
    obtain ⟨s, hload, -⟩ := exists_of_any (r := load .empty files) (P := fun _ => True) (by decide +kernel)
    obtain ⟨file, hfile, hothers, hport⟩ := exists_of_any
      (r := fileLayer files (ofVariables (.completed .empty files)).environment)
      (P := fun file => (∀ e ∈ file, e.1 = "server" ∨ Path.Apart (Path.ofText e.1).all ["server", "port"]) ∧
        ((table file).at? ["server", "port"]).bind asInt? = some 70000) (by decide +kernel)
    have hgives : Gives file ["server", "port"] (int 70000) := by
      apply gives_of_at? (ofText_section "server" (by decide)) hothers
      obtain ⟨x, hx, hint⟩ := Option.bind_eq_some_iff.1 hport
      rw [hx]
      cases x with
      | int n => rw [Option.some.inj hint]
      | _ => cases hint
    have hunnamed : Unnamed (.completed .empty files) ["server", "port"] := by
      intro e he
      cases he
    have hw : Whole.word16 ["server", "port"] (·.server.port) ∈ wholes := List.mem_cons_self
    obtain ⟨-, hcut, -⟩ := (wholes_of_load hload hfile hw 70000).1 hgives hunnamed
    exact ⟨files, s, file, hload, hfile, hgives, hunnamed, hcut⟩
  · let v : Variables := .ofList [("TOKENKEEP__SERVER__WORKERS", "9223372036854775809")]
    obtain ⟨s, hload, -⟩ := exists_of_any (r := load v .empty) (P := fun _ => True) (by decide +kernel)
    have hfile : fileLayer .empty (ofVariables (v.completed .empty)).environment = .ok [] := rfl
    have htext : Text.whole? "9223372036854775809" = some 9223372036854775809 := by decide +kernel
    have hnamed : Named (v.completed .empty) ["server", "workers"] "9223372036854775809" := by
      refine ⟨("TOKENKEEP__SERVER__WORKERS", "9223372036854775809"), List.mem_cons_self, rfl,
        ⟨"server.workers", by decide +kernel, by decide +kernel⟩, by decide +kernel⟩
    have hw : Whole.word64 ["server", "workers"] (·.server.workers) ∈ wholes :=
      List.mem_cons_of_mem _ List.mem_cons_self
    obtain ⟨-, hcut, -⟩ := (wholes_of_load hload hfile hw 9223372036854775809).2 _ htext hnamed
    exact ⟨v, s, hload, hfile, htext, hnamed, hcut.trans (by decide)⟩

end Bearer.Settings
