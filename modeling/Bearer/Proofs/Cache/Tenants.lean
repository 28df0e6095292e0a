import Bearer.Proofs.Cache.History
import Bearer.Proofs.Cache.Lookup
import Bearer.Proofs.Call.Does
import Bearer.Service.Surroundings
import Mathlib.Data.Set.Insert
import Mathlib.Logic.Function.Basic
/-! Several caches on one shelf, each under a name of its own. Since identifiers have texts of one length, a key tells
the name and the user that it is for, whatever the names look like. But all of them sweep the shelf, and whoever answers
a request reads the clock before it is its turn on the shelf. A lookup whose reading has been overtaken by the write of
another cache may miss what that one has swept away; no other lookup can tell what is looked up through the others. -/

namespace Bearer

namespace TypedCache

/-- What stands before the key of a user. -/
def front (c : TypedCache Descriptor) : List Char := if c.space.isEmpty then [] else c.space ++ [':']

theorem toList_userKey (c : TypedCache Descriptor) (user : Uuid) :
    (c.userKey user).toList = c.front ++ (Descriptor.cacheKey user).toList := by
  rw [userKey, fullKey, front]
  split
  · rw [List.nil_append]
  · rw [String.toList_ofList, List.append_assoc, List.singleton_append]

theorem length_cacheKey (user : Uuid) : (Descriptor.cacheKey user).toList.length = 47 := by
  have hjoin : Descriptor.cacheKey user = user.text ++ ":" ++ "descriptor" := by
    simp [Descriptor.cacheKey, joinKey, String.append_assoc]
  rw [hjoin, String.toList_append, String.toList_append, List.length_append, List.length_append, String.length_toList,
    user.length_text]
  rfl

/-- A key tells the name of its cache and its user. -/
theorem userKey_eq_iff {c c' : TypedCache Descriptor} {user user' : Uuid} :
    c.userKey user = c'.userKey user' ↔ c.space = c'.space ∧ user = user' := by
  constructor
  · intro h
    have hlist := congrArg String.toList h
    rw [toList_userKey, toList_userKey] at hlist
    obtain ⟨hfront, -⟩ := List.append_inj' hlist (by rw [length_cacheKey, length_cacheKey])
    have hspace : c.space = c'.space := by
      unfold front at hfront
      cases hc : c.space <;> cases hc' : c'.space <;> simp_all
    refine ⟨hspace, c.userKey_injective (h.trans ?_)⟩
    simp only [userKey, fullKey, hspace]
  · rintro ⟨hspace, rfl⟩
    simp only [userKey, fullKey, hspace]

/-- What a lookup through a cache may ask: for users, and for what is under the keys of the cache. -/
def Asks (c : TypedCache Descriptor) : Request → Prop
  | .fetch key => ∃ user, key = c.userKey user
  | .remember key _ _ => ∃ user, key = c.userKey user
  | .resolve _ => True
  | _ => False

theorem does_lookup (c : TypedCache Descriptor) (user : Uuid) : (c.lookup user).run.Does c.Asks fun _ => True := by
  rw [run_lookup]
  refine ⟨⟨user, rfl⟩, fun r => ?_⟩
  dsimp only
  cases c.hit? r with
  | some d => trivial
  | none =>
    refine ⟨trivial, fun a => ?_⟩
    cases a with
    | error f => trivial
    | ok d =>
      dsimp only
      cases c.codec.encode d with
      | none => trivial
      | some text => exact ⟨⟨user, rfl⟩, fun _ => trivial⟩

end TypedCache

/-- A shelf answers what is asked of it, others answer the rest. -/
def Shelf.answer (now : Instant) (others : (r : Request) → r.Answer) : (r : Request) → Shelf → r.Answer × Shelf
  | .fetch key, s => (.ok (s.get now key), s)
  | .remember key text ttl, s => s.set now key text ttl
  | r, s => (others r, s)

/-- A lookup, and the time that has been read for what it waits for. -/
structure Errand where
  call : Call (Except Fault Descriptor)
  reading : Option Instant

namespace Errand

def begun (call : Call (Except Fault Descriptor)) : Errand := ⟨call, none⟩

/-- The clock is read once for each request. -/
def look (now : Instant) (e : Errand) : Errand := ⟨e.call, some (e.reading.getD now)⟩

/-- What a lookup has come to, once it is over. -/
def result? (e : Errand) : Option (Except Fault Descriptor) :=
  match e.call with
  | .done r => some r
  | .ask .. => none

variable {errands : List Errand} {k : Nat} {now : Instant}

theorem mem_modify_look {e : Errand} (h : e ∈ errands.modify k (look now)) :
    e ∈ errands ∨ ∃ e', errands[k]? = some e' ∧ e = e'.look now := by
  obtain ⟨n, hn⟩ := List.mem_iff_getElem?.1 h
  rw [List.getElem?_modify, Option.map_eq_map, Option.map_eq_some_iff] at hn
  obtain ⟨e', he', rfl⟩ := hn
  split
  · next hk => exact Or.inr ⟨e', hk ▸ he', rfl⟩
  · exact Or.inl (List.mem_of_getElem? he')

theorem set_modify_look (errands : List Errand) (k : Nat) (now : Instant) (e : Errand) :
    (errands.modify k (look now)).set k e = errands.set k e := by
  refine List.ext_getElem? fun n => ?_
  rw [List.getElem?_set, List.getElem?_set, List.getElem?_modify, List.length_modify]
  by_cases hk : k = n
  · simp only [hk, if_true]
  · cases errands[n]? <;> simp [hk]

end Errand

/-- What happens next to the lookups of some tenants. -/
inductive Turn (ι : Type)
  /-- A tenant begins to look a user up. -/
  | begin (tenant : ι) (user : Uuid)
  /-- The clock is read for what one of the lookups of a tenant waits for. The directory makes no use of it. -/
  | look (tenant : ι) (lookup : Nat) (now : Instant)
  /-- It is answered, with what all others than the shelf would say. -/
  | answer (tenant : ι) (lookup : Nat) (others : (r : Request) → r.Answer)

namespace Turn

variable {ι : Type}

def tenant : Turn ι → ι
  | begin i _ => i
  | look i .. => i
  | answer i .. => i

/-- What the clock showed. -/
def reading? : Turn ι → Option Instant
  | look _ _ now => some now
  | _ => none

end Turn

/-- A request that was answered, and the reading of the clock for it. -/
structure Answered (ι : Type) where
  tenant : ι
  now : Instant
  request : Request

namespace Answered

variable {ι : Type}

def IsRead (x : Answered ι) : Prop := ∃ key, x.request = .fetch key

/-- What cannot be set leaves the shelf as it is. -/
def IsWrite (x : Answered ι) : Prop := ∃ key text ttl, x.request = .remember key text ttl ∧ Shelf.Fits x.now ttl

end Answered

/-- A shelf, for each of its tenants the lookups that it has begun, and what was answered, in this order. -/
structure Tenants (ι : Type) where
  shelf : Shelf
  lookups : ι → List Errand
  record : List (Answered ι)

namespace Tenants

section

variable {ι : Type}

/-- The readings of the clock in some turns. -/
def readings (turns : List (Turn ι)) : List Instant := turns.filterMap Turn.reading?

/-- No read of a tenant was overtaken: its reading of the clock is not behind that of a write which another tenant made
before. -/
def InTime (i : ι) (record : List (Answered ι)) : Prop :=
  record.Pairwise fun x y => x.tenant ≠ i → x.IsWrite → y.tenant = i → y.IsRead → x.now ≤ y.now

/-- Turns in which nobody comes between a reading of the clock and the answer for which it was read. -/
inductive Undisturbed : List (Turn ι) → Prop
  | nil : Undisturbed []
  | begin (i : ι) (user : Uuid) {turns : List (Turn ι)} : Undisturbed turns → Undisturbed (.begin i user :: turns)
  | answer (i : ι) (k : Nat) (now : Instant) (others : (r : Request) → r.Answer) {turns : List (Turn ι)} :
    Undisturbed turns → Undisturbed (.look i k now :: .answer i k others :: turns)

/-- When others than a tenant have written. -/
def sweeps (i : ι) (record : List (Answered ι)) : Set Instant :=
  { w | ∃ x ∈ record, x.tenant ≠ i ∧ x.IsWrite ∧ x.now = w }

theorem sweeps_subset {i : ι} {record record' : List (Answered ι)} (h : record ⊆ record') :
    sweeps i record ⊆ sweeps i record' :=
  fun _ ⟨x, hx, hw⟩ => ⟨x, h hx, hw⟩

/-- A lookup waits with the clock read, or there is nothing to answer. -/
theorem due_or_not (ts : Tenants ι) (i : ι) (k : Nat) :
    (∃ r next now, (ts.lookups i)[k]? = some ⟨.ask r next, some now⟩) ∨
      ∀ r next now, (ts.lookups i)[k]? ≠ some ⟨.ask r next, some now⟩ := by
  by_cases hdue : ∃ r next now, (ts.lookups i)[k]? = some ⟨.ask r next, some now⟩
  · exact Or.inl hdue
  · exact Or.inr fun r next now hk => hdue ⟨r, next, now, hk⟩

end

variable {ι : Type} [DecidableEq ι] (caches : ι → TypedCache Descriptor)

/-- With other lookups of a tenant. -/
def put (ts : Tenants ι) (i : ι) (errands : List Errand) : Tenants ι :=
  { ts with lookups := Function.update ts.lookups i errands }

/-- A lookup that is over, was never begun, or for which the clock has not been read is not answered. -/
def step (ts : Tenants ι) : Turn ι → Tenants ι
  | .begin i user => ts.put i (ts.lookups i ++ [.begun ((caches i).lookup user).run])
  | .look i k now => ts.put i ((ts.lookups i).modify k (Errand.look now))
  | .answer i k others =>
    match (ts.lookups i)[k]? with
    | some ⟨.ask r next, some now⟩ =>
      let (a, shelf) := Shelf.answer now others r ts.shelf
      { ts.put i ((ts.lookups i).set k (.begun (next a))) with
        shelf := shelf, record := ts.record ++ [⟨i, now, r⟩] }
    | _ => ts

/-- The turns in their order, over a shelf on which there may be anything. -/
def play (shelf : Shelf) (turns : List (Turn ι)) : Tenants ι := turns.foldl (step caches) ⟨shelf, fun _ => [], []⟩

end Tenants

namespace Shelf

/-- A shelf is like another one for a cache, but for what was swept away at some of these times. -/
def SweptFor (c : TypedCache Descriptor) (times : Set Instant) (s s' : Shelf) : Prop :=
  ∀ user, s.entries.get? (c.userKey user) = s'.entries.get? (c.userKey user) ∨
    s.entries.get? (c.userKey user) = none ∧
      ∃ e, s'.entries.get? (c.userKey user) = some e ∧ ∃ w ∈ times, e.expiresAt ≤ w

variable {c c' : TypedCache Descriptor} {now : Instant} {times times' : Set Instant} {s s' : Shelf}

theorem SweptFor.mono (h : SweptFor c times s s') (htimes : times ⊆ times') : SweptFor c times' s s' :=
  fun user => (h user).imp_right fun ⟨hnone, e, he, w, hw, hle⟩ => ⟨hnone, e, he, w, htimes hw, hle⟩

/-- Whoever is not behind those times cannot tell. -/
theorem SweptFor.get (h : SweptFor c times s s') (htimes : ∀ w ∈ times, w ≤ now) (user : Uuid) :
    s.get now (c.userKey user) = s'.get now (c.userKey user) := by
  unfold Shelf.get
  rcases h user with heq | ⟨hnone, e, he, w, hw, hle⟩
  · rw [heq]
  · have hend : e.isLive now = false := decide_eq_false (Int.not_lt.2 (Int.le_trans hle (htimes w hw)))
    rw [hnone, he, Option.filter_none, Option.filter_some, hend]
    rfl

/-- A write of the cache itself ends up on both shelves. -/
theorem SweptFor.set (h : SweptFor c times s s') (now : Instant) (user : Uuid) (text : String) (ttl : Ttl) :
    SweptFor c times (s.set now (c.userKey user) text ttl).2 (s'.set now (c.userKey user) text ttl).2 := by
  cases ht : expiry now ttl with
  | error f =>
    rw [Shelf.set, Shelf.set, ht]
    exact h
  | ok t =>
    rw [set_of_expiry ht, set_of_expiry ht]
    intro user'
    by_cases hkey : c.userKey user' = c.userKey user
    · simp only [hkey, Table.get?_insert, if_true, true_or]
    · simp only [Table.get?_insert, if_neg hkey, Table.get?_filter]
      rcases h user' with heq | ⟨hnone, e, he, hswept⟩
      · exact Or.inl (by rw [heq])
      · rw [hnone, he, Option.filter_none, Option.filter_some]
        cases e.isLive now with
        | true => exact Or.inr ⟨rfl, e, rfl, hswept⟩
        | false => exact Or.inl rfl

/-- A write of another cache sweeps away what has ended. -/
theorem SweptFor.set_of_ne (h : SweptFor c times s s') (hspace : c'.space ≠ c.space) (user : Uuid) (text : String)
    {t : Instant} {ttl : Ttl} (ht : expiry now ttl = .ok t) :
    SweptFor c (insert now times) (s.set now (c'.userKey user) text ttl).2 s' := by
  rw [set_of_expiry ht]
  intro user'
  have hkey : c.userKey user' ≠ c'.userKey user := fun heq => hspace (TypedCache.userKey_eq_iff.1 heq).1.symm
  simp only [Table.get?_insert, if_neg hkey, Table.get?_filter]
  rcases (h.mono (Set.subset_insert now times)) user' with heq | ⟨hnone, hswept⟩
  · rw [heq]
    cases he : s'.entries.get? (c.userKey user') with
    | none => exact Or.inl rfl
    | some e =>
      rw [Option.filter_some]
      cases hlive : e.isLive now with
      | true => exact Or.inl rfl
      | false => exact Or.inr ⟨rfl, e, rfl, now, Set.mem_insert .., Int.not_lt.1 (of_decide_eq_false hlive)⟩
  · rw [hnone, Option.filter_none]
    exact Or.inr ⟨rfl, hswept⟩

/-- What the lookups through the cache ask is answered alike on both shelves. -/
theorem SweptFor.answer (h : SweptFor c times s s') {r : Request} (hr : c.Asks r)
    (hread : (∃ key, r = .fetch key) → ∀ w ∈ times, w ≤ now) (others : (r : Request) → r.Answer) :
    (Shelf.answer now others r s).1 = (Shelf.answer now others r s').1 ∧
      SweptFor c times (Shelf.answer now others r s).2 (Shelf.answer now others r s').2 := by
  cases r with
  | fetch key =>
    obtain ⟨user, rfl⟩ := hr
    exact ⟨congrArg Except.ok (h.get (hread ⟨_, rfl⟩) user), h⟩
  | remember key text ttl =>
    obtain ⟨user, rfl⟩ := hr
    exact ⟨fst_set s s' now _ text ttl, h.set now user text ttl⟩
  | resolve user => exact ⟨rfl, h⟩
  | _ => exact hr.elim

/-- Of what the lookups through another cache ask, a write alone may make a difference. -/
theorem SweptFor.aside (h : SweptFor c times s s') (hspace : c'.space ≠ c.space) {r : Request} (hr : c'.Asks r)
    (htimes : times ⊆ times') (hwrite : ∀ key text ttl, r = .remember key text ttl → Fits now ttl → now ∈ times')
    (others : (r : Request) → r.Answer) : SweptFor c times' (Shelf.answer now others r s).2 s' := by
  cases r with
  | fetch key => exact h.mono htimes
  | remember key text ttl =>
    obtain ⟨user, rfl⟩ := hr
    rw [Shelf.answer]
    cases ht : expiry now ttl with
    | error f =>
      rw [Shelf.set, ht]
      exact h.mono htimes
    | ok t =>
      have hnow : now ∈ times' := hwrite _ text ttl rfl (fits_of_expiry ht)
      exact (h.set_of_ne hspace user text ht).mono (Set.insert_subset hnow htimes)
  | resolve user => exact h.mono htimes
  | _ => exact hr.elim

end Shelf

namespace Tenants

variable {ι : Type} [DecidableEq ι] {caches : ι → TypedCache Descriptor} {ts ts' : Tenants ι} {i j : ι} {k : Nat}
  {now : Instant} {turns : List (Turn ι)}

theorem put_put (ts : Tenants ι) (i : ι) (errands errands' : List Errand) :
    (ts.put i errands).put i errands' = ts.put i errands' := by
  simp only [put, Function.update_idem]

theorem step_answer_of_due {r : Request} {next : r.Answer → Call (Except Fault Descriptor)}
    (hk : (ts.lookups i)[k]? = some ⟨.ask r next, some now⟩) (others : (r : Request) → r.Answer) :
    ts.step caches (.answer i k others) =
      { ts.put i ((ts.lookups i).set k (.begun (next (Shelf.answer now others r ts.shelf).1))) with
        shelf := (Shelf.answer now others r ts.shelf).2
        record := ts.record ++ [⟨i, now, r⟩] } := by
  simp only [step, hk]

theorem step_answer_of_not_due (hk : ∀ r next now, (ts.lookups i)[k]? ≠ some ⟨.ask r next, some now⟩)
    (others : (r : Request) → r.Answer) : ts.step caches (.answer i k others) = ts := by
  rw [step]
  split
  · next r next now hdue => exact absurd hdue (hk r next now)
  · rfl

theorem record_step (ts : Tenants ι) (e : Turn ι) : ts.record <+: (ts.step caches e).record := by
  cases e with
  | begin i user => exact List.prefix_rfl
  | look i k now => exact List.prefix_rfl
  | answer i k others =>
    rw [step]
    split
    · exact List.prefix_append ..
    · exact List.prefix_rfl

theorem record_foldl (ts : Tenants ι) (turns : List (Turn ι)) :
    ts.record <+: (turns.foldl (step caches) ts).record := by
  induction turns generalizing ts with
  | nil => exact List.prefix_rfl
  | cons e turns ih => exact (record_step ts e).trans (ih _)

/-- Every lookup keeps to the keys of its tenant. -/
def Keeps (caches : ι → TypedCache Descriptor) (ts : Tenants ι) : Prop :=
  ∀ j, ∀ e ∈ ts.lookups j, e.call.Does (caches j).Asks fun _ => True

/-- A turn puts nothing in a tenant's place but what its own lookups go on with. -/
theorem Keeps.put (h : ts.Keeps caches) {errands : List Errand}
    (herrands : ∀ e ∈ errands, e.call.Does (caches i).Asks fun _ => True) : (ts.put i errands).Keeps caches := by
  intro j
  by_cases hj : j = i
  · subst hj
    simpa [Tenants.put] using herrands
  · simpa [Tenants.put, hj] using h j

theorem Keeps.step (h : ts.Keeps caches) (e : Turn ι) : (ts.step caches e).Keeps caches := by
  cases e with
  | begin i user =>
    refine h.put fun e he => ?_
    rcases List.mem_append.1 he with he | he
    · exact h i e he
    · rw [List.mem_singleton.1 he]
      exact (caches i).does_lookup user
  | look i k now =>
    refine h.put fun e he => ?_
    rcases Errand.mem_modify_look he with he | ⟨e', he', rfl⟩
    · exact h i e he
    · exact h i e' (List.mem_of_getElem? he')
  | answer i k others =>
    rcases ts.due_or_not i k with ⟨r, next, now, hk⟩ | hidle
    · rw [step_answer_of_due hk]
      refine h.put fun e he => ?_
      rcases List.mem_or_eq_of_mem_set he with he | rfl
      · exact h i e he
      · exact (h i _ (List.mem_of_getElem? hk)).2 _
    · rw [step_answer_of_not_due hidle]
      exact h

/-- A tenant has come equally far in two worlds, of which in the second it is alone. -/
structure Alike (caches : ι → TypedCache Descriptor) (i : ι) (ts ts' : Tenants ι) : Prop where
  lookups : ts.lookups i = ts'.lookups i
  shelf : Shelf.SweptFor (caches i) (sweeps i ts.record) ts.shelf ts'.shelf

theorem Alike.put (h : Alike caches i ts ts') (errands : List Errand) :
    Alike caches i (ts.put i errands) (ts'.put i errands) :=
  ⟨by simp only [Tenants.put, Function.update_self], h.shelf⟩

theorem Alike.put_of_ne (h : Alike caches i ts ts') (hj : j ≠ i) (errands : List Errand) :
    Alike caches i (ts.put j errands) ts' :=
  ⟨by simp only [Tenants.put, Function.update_of_ne (Ne.symm hj), h.lookups], h.shelf⟩

/-- A turn of the tenant's own has the same effect in both worlds. -/
theorem Alike.step {e : Turn ι} (h : Alike caches e.tenant ts ts') (hkeeps : ts.Keeps caches)
    (htime : InTime e.tenant (ts.step caches e).record) :
    Alike caches e.tenant (ts.step caches e) (ts'.step caches e) := by
  cases e with
  | begin i user =>
    have hlookups : ts.lookups i = ts'.lookups i := h.lookups
    simp only [Tenants.step, hlookups]
    exact h.put _
  | look i k now =>
    have hlookups : ts.lookups i = ts'.lookups i := h.lookups
    simp only [Tenants.step, hlookups]
    exact h.put _
  | answer i k others =>
    have hlookups : ts.lookups i = ts'.lookups i := h.lookups
    rcases ts.due_or_not i k with ⟨r, next, now, hk⟩ | hidle
    · have hr : (caches i).Asks r := (hkeeps i _ (List.mem_of_getElem? hk)).1
      rw [step_answer_of_due hk] at htime
      -- The read is in time, so what the others have swept away had ended by now.
      have hread : (∃ key, r = .fetch key) → ∀ w ∈ sweeps i ts.record, w ≤ now := by
        rintro hread _ ⟨x, hx, hother, hwrite, rfl⟩
        exact (List.pairwise_append.1 htime).2.2 x hx _ (List.mem_singleton_self _) hother hwrite rfl hread
      obtain ⟨hanswer, hshelf⟩ := h.shelf.answer hr hread others
      rw [step_answer_of_due hk, step_answer_of_due (hlookups ▸ hk)]
      refine ⟨?_, hshelf.mono (sweeps_subset (List.subset_append_left ..))⟩
      simp only [Tenants.put, Turn.tenant, Function.update_self, hanswer, hlookups]
    · rw [step_answer_of_not_due hidle, step_answer_of_not_due (hlookups ▸ hidle)]
      exact h

/-- A turn of another tenant has no effect that this one could see, but by a read that it overtakes. -/
theorem Alike.aside {e : Turn ι} (h : Alike caches i ts ts') (hkeeps : ts.Keeps caches) (he : e.tenant ≠ i)
    (hspace : (caches e.tenant).space ≠ (caches i).space) : Alike caches i (ts.step caches e) ts' := by
  cases e with
  | begin j user => exact h.put_of_ne he _
  | look j k now => exact h.put_of_ne he _
  | answer j k others =>
    rcases ts.due_or_not j k with ⟨r, next, now, hk⟩ | hidle
    · have hr : (caches j).Asks r := (hkeeps j _ (List.mem_of_getElem? hk)).1
      rw [step_answer_of_due hk]
      refine ⟨(h.put_of_ne he _).lookups, ?_⟩
      refine h.shelf.aside hspace hr (sweeps_subset (List.subset_append_left ..)) ?_ others
      rintro key text ttl rfl hfits
      exact ⟨_, List.mem_append_right _ (List.mem_singleton_self _), he, ⟨key, text, ttl, rfl, hfits⟩, rfl⟩
    · rw [step_answer_of_not_due hidle]
      exact h

theorem lookups_foldl (hspace : ∀ j, j ≠ i → (caches j).space ≠ (caches i).space)
    (htime : InTime i (turns.foldl (step caches) ts).record) (h : Alike caches i ts ts') (hkeeps : ts.Keeps caches) :
    (turns.foldl (step caches) ts).lookups i =
      ((turns.filter fun e => e.tenant = i).foldl (step caches) ts').lookups i := by
  -- In the second world only the turns of the tenant are taken, so both worlds vary.
  induction turns generalizing ts ts' with
  | nil => exact h.lookups
  | cons e turns ih =>
    have hnow : InTime i (ts.step caches e).record := htime.sublist (record_foldl _ turns).sublist
    rw [List.foldl_cons, List.filter_cons]
    by_cases he : e.tenant = i
    · subst he
      simp only [decide_true, if_true, List.foldl_cons]
      exact ih htime (h.step hkeeps hnow) (hkeeps.step e)
    · simp only [he, decide_false, Bool.false_eq_true, if_false]
      exact ih htime (h.aside hkeeps he (hspace e.tenant he)) (hkeeps.step e)

/-- Nobody has read the clock for what a lookup waits for. -/
def Rested (ts : Tenants ι) : Prop := ∀ j, ∀ e ∈ ts.lookups j, (∃ r, e.call.Waits r) → e.reading = none

theorem Rested.put (h : ts.Rested) {errands : List Errand}
    (herrands : ∀ e ∈ errands, (∃ r, e.call.Waits r) → e.reading = none) : (ts.put i errands).Rested := by
  intro j
  by_cases hj : j = i
  · subst hj
    simpa [Tenants.put] using herrands
  · simpa [Tenants.put, hj] using h j

theorem Rested.begin (h : ts.Rested) (i : ι) (user : Uuid) : (ts.step caches (.begin i user)).Rested := by
  refine h.put fun e he => ?_
  rcases List.mem_append.1 he with he | he
  · exact h i e he
  · rw [List.mem_singleton.1 he]
    exact fun _ => rfl

variable (caches) in
theorem getElem?_look (ts : Tenants ι) (i : ι) (k : Nat) (now : Instant) :
    ((ts.step caches (.look i k now)).lookups i)[k]? = ((ts.lookups i)[k]?).map (Errand.look now) := by
  simp [step, Tenants.put]

variable (caches) in
/-- A reading of the clock and an answer right behind each other are for one request, or else come to nothing. -/
theorem Rested.look_answer (h : ts.Rested) (i : ι) (k : Nat) (now : Instant) (others : (r : Request) → r.Answer) :
    let behind := (ts.step caches (.look i k now)).step caches (.answer i k others)
    behind.Rested ∧ (behind.record = ts.record ∨ ∃ r, behind.record = ts.record ++ [⟨i, now, r⟩]) := by
  have hlooked := getElem?_look caches ts i k now
  by_cases hwaiting : ∃ e r, (ts.lookups i)[k]? = some e ∧ e.call.Waits r
  · obtain ⟨⟨call, reading⟩, r, hk, next, rfl⟩ := hwaiting
    obtain rfl : reading = none := h i _ (List.mem_of_getElem? hk) ⟨r, next, rfl⟩
    rw [hk] at hlooked
    rw [step_answer_of_due hlooked]
    refine ⟨?_, Or.inr ⟨r, rfl⟩⟩
    have hlooks : (ts.step caches (.look i k now)).lookups i = (ts.lookups i).modify k (Errand.look now) :=
      Function.update_self ..
    rw [hlooks, Errand.set_modify_look, step, put_put]
    refine h.put fun e he => ?_
    rcases List.mem_or_eq_of_mem_set he with he | rfl
    · exact h i e he
    · exact fun _ => rfl
  · rw [step_answer_of_not_due]
    · refine ⟨h.put fun e he => ?_, Or.inl rfl⟩
      rcases Errand.mem_modify_look he with he | ⟨e', he', rfl⟩
      · exact h i e he
      · rintro ⟨r, hr⟩
        exact absurd ⟨e', r, he', hr⟩ hwaiting
    · intro r next t hk
      rw [hlooked, Option.map_eq_some_iff] at hk
      obtain ⟨e, he, hlook⟩ := hk
      exact hwaiting ⟨e, r, he, next, congrArg Errand.call hlook⟩

variable (caches) in
/-- Undisturbed turns are on record in the order in which the clock was read. -/
theorem pairwise_record (hturns : Undisturbed turns) (hclock : (readings turns).Pairwise (· ≤ ·)) (hrested : ts.Rested)
    (hrecord : ts.record.Pairwise fun x y => x.now ≤ y.now)
    (hbehind : ∀ x ∈ ts.record, ∀ t ∈ readings turns, x.now ≤ t) :
    (turns.foldl (step caches) ts).record.Pairwise fun x y => x.now ≤ y.now := by
  induction hturns generalizing ts with
  | nil => exact hrecord
  | begin i user _ ih => exact ih hclock (hrested.begin i user) hrecord hbehind
  | answer i k now others _ ih =>
    obtain ⟨hnow, hclock⟩ := List.pairwise_cons.1 hclock
    obtain ⟨hrested', hsame | ⟨r, hadded⟩⟩ := hrested.look_answer caches i k now others
    · refine ih hclock hrested' (hsame ▸ hrecord) ?_
      rw [hsame]
      exact fun x hx t ht => hbehind x hx t (List.mem_cons_of_mem now ht)
    · refine ih hclock hrested' ?_ ?_
      · rw [hadded]
        refine List.pairwise_append.2 ⟨hrecord, List.pairwise_singleton .., fun x hx y hy => ?_⟩
        rw [List.mem_singleton.1 hy]
        exact hbehind x hx now List.mem_cons_self
      · rw [hadded]
        intro x hx t ht
        rcases List.mem_append.1 hx with hx | hx
        · exact hbehind x hx t (List.mem_cons_of_mem now ht)
        · rw [List.mem_singleton.1 hx]
          exact hnow t ht

/-- Services whose caches are under different names on one shelf, with what lifetimes they like. Whatever they look up
and however their lookups alternate, the lookups of each service come to what they come to when its turns are the only
ones, with the same readings of the clock and the same answers of all others than the shelf, as long as none of its
reads is overtaken: answered behind a write of another service for which the clock showed a later time. Where the clock
is read right before each answer and does not run backwards, no read is. Colons at the end of a name make no
difference, and apart from these only caches of one name have a key in common, the one of the same user. -/
theorem lookups_eq_of_alone {ι : Type} [DecidableEq ι] (ttl : ι → Ttl) (name : ι → String) (shelf : Shelf)
    (turns : List (Turn ι)) :
    let caches := fun i => Descriptor.cache (ttl i) (spaceOf (name i))
    (∀ i, (∀ j, j ≠ i → spaceOf (name j) ≠ spaceOf (name i)) → InTime i (play caches shelf turns).record →
      (play caches shelf turns).lookups i = (play caches shelf (turns.filter fun e => e.tenant = i)).lookups i) ∧
    (Undisturbed turns → (readings turns).Pairwise (· ≤ ·) → ∀ i, InTime i (play caches shelf turns).record) ∧
    ∀ i j user user', (caches i).userKey user = (caches j).userKey user' ↔
      spaceOf (name i) = spaceOf (name j) ∧ user = user' := by
  intro caches
  refine ⟨fun i hname htime => ?_, fun hturns hclock i => ?_, fun i j user user' => TypedCache.userKey_eq_iff⟩
  · have hkeeps : Keeps caches ⟨shelf, fun _ => [], []⟩ := fun j e he => nomatch he
    exact lookups_foldl hname htime ⟨rfl, fun _ => Or.inl rfl⟩ hkeeps
  · have hrested : Rested (⟨shelf, fun _ => [], []⟩ : Tenants ι) := fun j e he => nomatch he
    have hrecord := pairwise_record caches hturns hclock hrested .nil fun x hx => nomatch hx
    exact hrecord.imp fun hle _ _ _ _ => hle

/-- The directory gives this name to every user. -/
def named (s : String) : (r : Request) → r.Answer
  | .resolve user => .ok ⟨user, s⟩
  | r => ((Surroundings.start Instant.epoch [] [] (.shelf .empty)).reply r).1

/-- The next request of a lookup is answered right behind the reading of the clock. -/
def atOnce {ι : Type} (i : ι) (k : Nat) (now : Instant) (s : String) : List (Turn ι) :=
  [.look i k now, .answer i k (named s)]

/-- One service has no name and the other one that looks like the key of a user. Both look that user up, and what the
second is told goes on the shelf before the first looks there. -/
theorem lookups_eq_of_alone_nameless : ∃ (name : Bool → String) (turns : List (Turn Bool)),
    name true = "" ∧ name false = "00000000-0000-0000-0000-000000000007:descriptor::" ∧
      (∀ j, j ≠ true → spaceOf (name j) ≠ spaceOf (name true)) ∧
      ((play (fun i => Descriptor.cache (Ttl.ofSeconds 10) (spaceOf (name i))) Shelf.empty turns).lookups true)[0]? =
        some ⟨.done (.ok ⟨Uuid.ofNat 7, "eve"⟩), none⟩ := by
  let name : Bool → String := fun i => if i then "" else "00000000-0000-0000-0000-000000000007:descriptor::"
  let later : Instant := ⟨1, by omega, by omega⟩
  let turns : List (Turn Bool) := [.begin true (Uuid.ofNat 7), .begin false (Uuid.ofNat 7)] ++
    atOnce false 0 Instant.epoch "ada" ++ atOnce false 0 Instant.epoch "ada" ++ atOnce false 0 Instant.epoch "ada" ++
    atOnce true 0 later "eve" ++ atOnce true 0 later "eve" ++ atOnce true 0 later "eve"
  have hname : ∀ j, j ≠ true → spaceOf (name j) ≠ spaceOf (name true) := by decide +kernel
  have hclock : (readings turns).Pairwise (· ≤ ·) := by decide
  have hturns : Undisturbed turns := by
    repeat constructor
  obtain ⟨halone, htime, -⟩ := lookups_eq_of_alone (fun _ => Ttl.ofSeconds 10) name Shelf.empty turns
  refine ⟨name, turns, rfl, rfl, hname, ?_⟩
  rw [halone true hname (htime hturns hclock true)]
  rfl

/-- A lookup that hits is over. -/
theorem step_answer_of_hit {user : Uuid} {d : Descriptor} {text : String}
    (hk : (ts.lookups i)[k]? = some ⟨((caches i).lookup user).run, some now⟩)
    (hget : ts.shelf.get now ((caches i).userKey user) = some text) (htext : (caches i).codec.decode text = some d)
    (others : (r : Request) → r.Answer) :
    ts.step caches (.answer i k others) =
      { ts.put i ((ts.lookups i).set k (.begun (.done (.ok d)))) with
        record := ts.record ++ [⟨i, now, .fetch ((caches i).userKey user)⟩] } := by
  rw [TypedCache.run_lookup] at hk
  rw [step_answer_of_due hk]
  simp only [Shelf.answer, hget, TypedCache.hit?, htext]
  rfl

/-- The first service has had a user looked up, of whom it keeps what it was told until the clock shows ten. It begins
to look the user up again, for which the clock shows nine. -/
def begunInTime : List (Turn Bool) :=
  .begin true (Uuid.ofNat 7) :: atOnce true 0 Instant.epoch "ada" ++ atOnce true 0 Instant.epoch "ada" ++
    atOnce true 0 Instant.epoch "ada" ++ [.begin true (Uuid.ofNat 7), .look true 1 ⟨9, by omega, by omega⟩]

/-- Before it goes on, the second service looks the user up, for which the clock shows eleven. -/
def overtaking : List (Turn Bool) :=
  .begin false (Uuid.ofNat 7) :: atOnce false 0 ⟨11, by omega, by omega⟩ "bob" ++
    atOnce false 0 ⟨11, by omega, by omega⟩ "bob" ++ atOnce false 0 ⟨11, by omega, by omega⟩ "bob"

def goesOn : List (Turn Bool) :=
  .answer true 1 (named "eve") :: atOnce true 1 ⟨11, by omega, by omega⟩ "eve" ++
    atOnce true 1 ⟨11, by omega, by omega⟩ "eve"

/-- On a clock that does not run backwards a lookup can come to something else than alone. The second service sweeps
away what the first one would have found. -/
theorem lookups_ne_of_alone_overtaken :
    let name := fun i : Bool => if i then "a" else "b"
    let caches := fun i => Descriptor.cache ⟨10⟩ (spaceOf (name i))
    let turns := begunInTime ++ overtaking ++ goesOn
    (readings turns).Pairwise (· ≤ ·) ∧ spaceOf (name false) ≠ spaceOf (name true) ∧
      ((play caches Shelf.empty turns).lookups true)[1]?.bind Errand.result? = some (.ok ⟨Uuid.ofNat 7, "eve"⟩) ∧
      ((play caches Shelf.empty (turns.filter fun e => e.tenant = true)).lookups true)[1]?.bind Errand.result? =
        some (.ok ⟨Uuid.ofNat 7, "ada"⟩) := by
  refine ⟨by decide, by decide, rfl, ?_⟩
  let caches := fun i : Bool => Descriptor.cache ⟨10⟩ (spaceOf (if i then "a" else "b"))
  have halone : (begunInTime ++ overtaking ++ goesOn).filter (fun e => e.tenant = true) = begunInTime ++ goesOn := rfl
  have hbegun : (play caches Shelf.empty begunInTime).lookups true =
      [⟨.done (.ok ⟨Uuid.ofNat 7, "ada"⟩), none⟩,
        ⟨((caches true).lookup (Uuid.ofNat 7)).run, some ⟨9, by omega, by omega⟩⟩] := rfl
  have hget : (play caches Shelf.empty begunInTime).shelf.get ⟨9, by omega, by omega⟩
      ((caches true).userKey (Uuid.ofNat 7)) = some (Descriptor.toJson ⟨Uuid.ofNat 7, "ada"⟩).write := rfl
  have htext : (caches true).codec.decode (Descriptor.toJson ⟨Uuid.ofNat 7, "ada"⟩).write =
      some ⟨Uuid.ofNat 7, "ada"⟩ := Descriptor.decode_encode rfl
  have hhit := step_answer_of_hit (k := 1) (by rw [hbegun]; rfl) hget htext (named "eve")
  rw [halone, play, List.foldl_append, goesOn, List.cons_append, List.foldl_cons]
  rw [play] at hhit hbegun
  rw [hhit, hbegun]
  rfl

end Tenants

end Bearer
