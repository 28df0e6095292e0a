import Bearer.Proofs.Cache.History
import Bearer.Proofs.Cache.Tenants
/-! A value that a cache has taken is what the cache gives under its key until its time is over, and nothing afterwards.
What is read, and what is written under other keys, makes no difference: keys stay different behind the common name,
and the text of a value is read back as the value. -/

namespace Bearer

namespace TypedCache

variable {α : Type} {c : TypedCache α}

/-- What is done with a cache. -/
inductive Use (α : Type)
  | get (key : String)
  | getOrFail (key : String)
  | set (key : String) (value : α)
  | setOrFail (key : String) (value : α)

namespace Use

/-- A use, whatever comes of it. -/
def call (c : TypedCache α) : Use α → Call Unit
  | get key => do let _ ← c.get key
  | getOrFail key => do let _ ← (c.getOrFail key).run
  | set key v => c.set key v
  | setOrFail key v => do let _ ← (c.setOrFail key v).run

/-- The key under which something is written. -/
def writes? : Use α → Option String
  | get _ | getOrFail _ => none
  | set key _ | setOrFail key _ => some key

/-- What a use asks of the shelf at a time. -/
def visits (c : TypedCache α) (now : Instant) : Use α → List Shelf.Visit
  | get key | getOrFail key => [.get now (c.fullKey key)]
  | set key v | setOrFail key v =>
    (c.codec.encode v).toList.map fun text => .set now (c.fullKey key) text c.ttl

/-- A use is done by asking the shelf, and changes nothing else. -/
theorem run_call (others : (r : Request) → r.Answer) (now : Instant) (u : Use α) (s : Shelf) :
    ((u.call c).run (Shelf.answer now others) s).2 = s.after (u.visits c now) := by
  cases u with
  | get key =>
    simp only [call, get_eq]
    rfl
  | getOrFail key =>
    simp only [call, run_getOrFail]
    rfl
  | set key v =>
    simp only [call, set_eq, visits]
    cases c.codec.encode v <;> rfl
  | setOrFail key v =>
    simp only [call, run_setOrFail, visits]
    cases c.codec.encode v <;> rfl

/-- Writing under one key puts nothing under another. -/
theorem puts?_of_mem_visits {now : Instant} {key : String} {u : Use α} (hu : u.writes? ≠ some key)
    {v : Shelf.Visit} (hv : v ∈ u.visits c now) : v.now = now ∧ v.puts? (c.fullKey key) = none := by
  have hset (k : String) (value : α) (hk : some k ≠ some key)
      (hv : v ∈ (c.codec.encode value).toList.map fun text => Shelf.Visit.set now (c.fullKey k) text c.ttl) :
      v.now = now ∧ v.puts? (c.fullKey key) = none := by
    obtain ⟨text, -, rfl⟩ := List.mem_map.1 hv
    have hfull : c.fullKey k ≠ c.fullKey key := fun h => hk (congrArg some (c.fullKey_injective h))
    exact ⟨rfl, if_neg hfull⟩
  cases u with
  | get k =>
    cases List.mem_singleton.1 hv
    exact ⟨rfl, rfl⟩
  | getOrFail k =>
    cases List.mem_singleton.1 hv
    exact ⟨rfl, rfl⟩
  | set k value => exact hset k value hu hv
  | setOrFail k value => exact hset k value hu hv

end Use

/-- The shelf behind the uses of a cache, each at its time. -/
def useAll (c : TypedCache α) (others : (r : Request) → r.Answer) (s : Shelf) (uses : List (Instant × Use α)) : Shelf :=
  uses.foldl (fun s u => ((u.2.call c).run (Shelf.answer u.1 others) s).2) s

theorem useAll_eq (others : (r : Request) → r.Answer) (s : Shelf) (uses : List (Instant × Use α)) :
    c.useAll others s uses = s.after (uses.flatMap fun u => u.2.visits c u.1) := by
  induction uses generalizing s with
  | nil => rfl
  | cons u uses ih =>
    have hstep : c.useAll others s (u :: uses) =
        c.useAll others ((u.2.call c).run (Shelf.answer u.1 others) s).2 uses := rfl
    rw [hstep, ih, Use.run_call, List.flatMap_cons, Shelf.after_append]

/-- Uses that do not write under a key cannot be told from what is under it. -/
theorem get_useAll {others : (r : Request) → r.Answer} {s : Shelf} {now : Instant} {key : String}
    {uses : List (Instant × Use α)} (huses : ∀ u ∈ uses, u.1 ≤ now ∧ u.2.writes? ≠ some key) :
    (c.useAll others s uses).get now (c.fullKey key) = s.get now (c.fullKey key) := by
  have hvisits : ∀ v ∈ uses.flatMap fun u => u.2.visits c u.1, v.now ≤ now ∧ v.puts? (c.fullKey key) = none := by
    intro v hv
    obtain ⟨u, hu, hv⟩ := List.mem_flatMap.1 hv
    obtain ⟨htime, hkey⟩ := huses u hu
    obtain ⟨hnow, hputs⟩ := Use.puts?_of_mem_visits hkey hv
    exact ⟨hnow ▸ htime, hputs⟩
  rw [useAll_eq, Shelf.get_after fun v hv => (hvisits v hv).1,
    Shelf.Visit.last?_eq_none.2 fun v hv => (hvisits v hv).2]
  rfl

/-- What a successful write leaves under its key. -/
theorem get_setOrFail {others : (r : Request) → r.Answer} {s : Shelf} {w now : Instant} {key text : String} {v : α}
    (htext : c.codec.encode v = some text)
    (hset : ((c.setOrFail key v).run.run (Shelf.answer w others) s).1 = .ok ()) :
    ((c.setOrFail key v).run.run (Shelf.answer w others) s).2.get now (c.fullKey key) =
      if now.nanos < w.nanos + c.ttl.nanos then some text else none := by
  simp only [run_setOrFail, htext] at hset ⊢
  obtain ⟨t, ht⟩ := Shelf.expiry_of_fits (Shelf.set_fst_eq_ok.1 hset)
  have hend : now < t ↔ now.nanos < w.nanos + c.ttl.nanos := by rw [← Shelf.expiry_eq_ok ht, Instant.lt_def]
  show (s.set w (c.fullKey key) text c.ttl).2.get now (c.fullKey key) = _
  split
  · next hlive => exact Shelf.get_set ht (hend.2 hlive) s _ text
  · next hover =>
    rw [Shelf.set_of_expiry ht, Shelf.get, Table.get?_insert, if_pos rfl]
    simp [Shelf.Entry.isLive, hend, hover]

end TypedCache

open TypedCache in
/-- A descriptor that was written with success is read back, by both ways of reading, as long as its time is not over,
and from then on it is not found. In between the cache may be read and other keys be written, on a clock that is not
behind what it has shown; there may be anything on the shelf and any texts in the descriptors, and a write among these
may fail. -/
theorem Descriptor.kept_until_over (ttl : Ttl) (name key : String) (d : Descriptor) (others : (r : Request) → r.Answer)
    (s : Shelf) (w now : Instant) (uses : List (Instant × Use Descriptor))
    (hset : (((cache ttl (spaceOf name)).setOrFail key d).run.run (Shelf.answer w others) s).1 = .ok ())
    (huses : ∀ u ∈ uses, u.1 ≤ now ∧ u.2.writes? ≠ some key) :
    let c := cache ttl (spaceOf name)
    let s' := c.useAll others ((c.setOrFail key d).run.run (Shelf.answer w others) s).2 uses
    (now.nanos < w.nanos + ttl.nanos →
      ((c.getOrFail key).run.run (Shelf.answer now others) s').1 = .ok d ∧
      ((c.get key).run (Shelf.answer now others) s').1 = some d) ∧
    (w.nanos + ttl.nanos ≤ now.nanos →
      ((c.getOrFail key).run.run (Shelf.answer now others) s').1 =
        .error (.notFound ("cache entry " ++ c.fullKey key)) ∧
      ((c.get key).run (Shelf.answer now others) s').1 = none) := by
  intro c s'
  have htext : c.codec.encode d = some d.toJson.write := rfl
  have hback : c.codec.decode d.toJson.write = some d := decode_encode htext
  have hshown : s'.get now (c.fullKey key) = if now.nanos < w.nanos + ttl.nanos then some d.toJson.write else none := by
    rw [get_useAll huses]
    exact TypedCache.get_setOrFail htext hset
  have hstrict : ((c.getOrFail key).run.run (Shelf.answer now others) s').1 =
      c.found key (.ok (s'.get now (c.fullKey key))) := by
    rw [run_getOrFail]
    rfl
  have hlenient : ((c.get key).run (Shelf.answer now others) s').1 = c.hit? (.ok (s'.get now (c.fullKey key))) := by
    rw [get_eq]
    rfl
  constructor
  · intro hlive
    rw [hstrict, hlenient, hshown, if_pos hlive]
    simp only [found, hit?, hback, and_self]
  · intro hover
    rw [hstrict, hlenient, hshown, if_neg (Int.not_lt.2 hover)]
    exact ⟨rfl, rfl⟩

/-- A name with a quote, a backslash, a line break and a letter beyond the first plane stays for ten nanoseconds, while
keys that only look alike are written and the key itself is read. -/
theorem Descriptor.kept_until_over_in_between :
    let c := cache ⟨10⟩ (spaceOf "app::")
    let d : Descriptor := ⟨Uuid.ofNat 7, "a\"b\\c\n😀"⟩
    ∃ (now later : Instant) (uses : List (Instant × TypedCache.Use Descriptor)),
      now.nanos = 9 ∧ later.nanos = 10 ∧ uses.length = 3 ∧
      let s' := c.useAll (Tenants.named "eve")
        ((c.setOrFail "k" d).run.run (Shelf.answer Instant.epoch (Tenants.named "eve")) Shelf.empty).2 uses
      ((c.getOrFail "k").run.run (Shelf.answer now (Tenants.named "eve")) s').1 = .ok d ∧
      ((c.get "k").run (Shelf.answer later (Tenants.named "eve")) s').1 = none := by
  intro c d
  let uses : List (Instant × TypedCache.Use Descriptor) :=
    [(⟨2, by omega, by omega⟩, .set "app:k" ⟨Uuid.ofNat 8, "ada"⟩), (⟨3, by omega, by omega⟩, .get "k"),
      (⟨9, by omega, by omega⟩, .setOrFail "k:" d)]
  have hset : ((c.setOrFail "k" d).run.run (Shelf.answer Instant.epoch (Tenants.named "eve")) Shelf.empty).1 =
      .ok () := by
    have hfits : Shelf.Fits Instant.epoch ⟨10⟩ := ⟨by decide, by decide⟩
    rw [TypedCache.run_setOrFail]
    exact Shelf.set_fst_eq_ok.2 hfits
  have huses (now : Instant) (hnow : 9 ≤ now.nanos) : ∀ u ∈ uses, u.1 ≤ now ∧ u.2.writes? ≠ some "k" := by
    simp only [uses, List.forall_mem_cons, List.not_mem_nil, false_implies, implies_true, Instant.le_def, and_true]
    exact ⟨⟨by omega, by decide⟩, ⟨by omega, by decide⟩, by omega, by decide⟩
  refine ⟨⟨9, by omega, by omega⟩, ⟨10, by omega, by omega⟩, uses, rfl, rfl, rfl, ?_, ?_⟩
  · exact ((kept_until_over ⟨10⟩ "app::" "k" d _ _ _ _ uses hset (huses _ (by decide))).1 (by decide)).1
  · exact ((kept_until_over ⟨10⟩ "app::" "k" d _ _ _ _ uses hset (huses _ (by decide))).2 (by decide)).2

end Bearer
