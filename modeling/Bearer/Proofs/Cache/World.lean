import Bearer.Cache.Shelf
import Bearer.Proofs.Cache.Lookup
import Bearer.Proofs.Pool.Run
import Bearer.Store.Directory
/-! Lookups side by side over one directory and one shelf, in a world that goes on by itself: time passes, and
users come, change and leave between the steps of the lookups. The log has the time of every step of a
lookup. -/

namespace Bearer

structure World where
  now : Instant
  directory : Directory
  shelf : Shelf

namespace World

/-- How the world replies to a lookup, and what becomes of it. -/
inductive Replies : World → (r : Request) → r.Answer → World → Prop
  | fetch (w : World) (key : String) : Replies w (.fetch key) (.ok (w.shelf.get w.now key)) w
  | resolve (w : World) (user : Uuid) : Replies w (.resolve user) (w.directory.resolve user) w
  | remember (w : World) (key text : String) (ttl : Ttl) :
      Replies w (.remember key text ttl) (w.shelf.set w.now key text ttl).1
        { w with shelf := (w.shelf.set w.now key text ttl).2 }

theorem Replies.hit {w : World} {key text : String} (h : w.shelf.get w.now key = some text) :
    Replies w (.fetch key) (.ok (some text)) w :=
  h ▸ .fetch w key

inductive Event
  /-- The clock has come to a time. -/
  | passed (now : Instant)
  /-- A user is there, in place of the one with the same identifier. -/
  | entered (d : Descriptor)
  | left (user : Uuid)
  | call (time : Instant) (e : Pool.Event Uuid)

end World

/-- Lookups of users in a world. -/
abbrev Lookups : Type := Pool World fun _ : Uuid => Except Fault Descriptor

namespace Lookups

/-- A world without lookups, with nothing on the shelf. -/
def start (now : Instant) (users : List Descriptor) : Lookups := Pool.start ⟨now, Directory.ofList users, Shelf.empty⟩

def perform (c : TypedCache Descriptor) (user : Uuid) : Call (Except Fault Descriptor) := (c.lookup user).run

inductive Step (c : TypedCache Descriptor) : Lookups → World.Event → Lookups → Prop
  | pass (p : Lookups) (now : Instant) (h : p.shared.now ≤ now) :
      Step c p (.passed now) ⟨{ p.shared with now := now }, p.calls⟩
  | enter (p : Lookups) (d : Descriptor) :
      Step c p (.entered d) ⟨{ p.shared with directory := p.shared.directory.insert d }, p.calls⟩
  | leave (p : Lookups) (user : Uuid) :
      Step c p (.left user) ⟨{ p.shared with directory := (p.shared.directory.remove user).2 }, p.calls⟩
  | call {p q : Lookups} {e : Pool.Event Uuid} (h : Pool.Step (perform c) World.Replies p e q) :
      Step c p (.call p.shared.now e) q

inductive Run (c : TypedCache Descriptor) : Lookups → List World.Event → Lookups → Prop
  | nil (p : Lookups) : Run c p [] p
  | snoc {p q r : Lookups} {log : List World.Event} {e : World.Event} :
      Run c p log q → Step c q e r → Run c p (log ++ [e]) r

variable {c : TypedCache Descriptor} {p q : Lookups} {log : List World.Event}

/-- The steps of the lookups alone. -/
def steps (log : List World.Event) : List (Pool.Event Uuid) :=
  log.filterMap fun
    | .call _ e => some e
    | _ => none

theorem mem_steps {e : Pool.Event Uuid} : e ∈ steps log ↔ ∃ time, .call time e ∈ log := by
  simp only [steps, List.mem_filterMap]
  constructor
  · rintro ⟨_ | _ | _ | ⟨time, e'⟩, he, h⟩
    case call => cases h; exact ⟨time, he⟩
    all_goals cases h
  · rintro ⟨time, h⟩
    exact ⟨_, h, rfl⟩

/-- The lookups of a pool, with nothing said about what they share. -/
def bare (p : Lookups) : Pool Unit fun _ : Uuid => Except Fault Descriptor := ⟨(), p.calls⟩

/-- Without the world, a run is one of calls that may be answered anything. -/
theorem Run.bare (h : Run c p log q) : Pool.Run (perform c) (fun _ _ _ _ => True) p.bare (steps log) q.bare := by
  induction h with
  | nil => exact .nil _
  | @snoc q r log e _ hs ih =>
    rw [steps, List.filterMap_append]
    cases hs with
    | call hs =>
      refine ih.snoc ?_
      cases hs with
      | begin user => exact .begin _ user
      | answer a hi _ => exact .answer a hi trivial
    | _ =>
      show Pool.Run _ _ _ (steps log ++ []) _
      rw [List.append_nil]
      exact ih

/-- How far a lookup has come is told by what it was answered. -/
theorem Run.path {now : Instant} {users : List Descriptor} (h : Run c (start now users) log q) {i : Nat} {user : Uuid}
    {rest : Call (Except Fault Descriptor)} (hi : q.calls[i]? = some ⟨user, rest⟩) :
    LookupPath c user (Pool.history i (steps log)) rest :=
  lookupPath_of_reaches (h.bare.reaches_of_start hi)

theorem mem_history {i : Nat} {x : Exchange} :
    x ∈ Pool.history i (steps log) ↔ ∃ time, .call time (.answered i x) ∈ log :=
  Pool.mem_history.trans mem_steps

/-- Only the lookup of a user asks for the user. -/
theorem Run.call_of_resolved {now : Instant} {users : List Descriptor} (h : Run c (start now users) log q) {i : Nat}
    {user : Uuid} {a : Except Fault Descriptor} {time : Instant}
    (hx : .call time (.answered i ⟨.resolve user, a⟩) ∈ log) : ∃ rest, q.calls[i]? = some ⟨user, rest⟩ := by
  obtain ⟨⟨user', rest⟩, hi⟩ := h.bare.exists_call (mem_steps.2 ⟨time, hx⟩)
  obtain rfl : user = user' := (h.path hi).user_of_resolve (mem_history.2 ⟨time, hx⟩)
  exact ⟨rest, hi⟩

end Lookups

end Bearer
