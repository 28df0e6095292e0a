import Bearer.Proofs.Call.Behaves
import Bearer.Service.Surroundings
/-! Surroundings in which nothing can go wrong but what the store and the directory say themselves: the cache is
a shelf, and no answer is set to fail. -/

namespace Bearer

/-- How such surroundings can answer. A value or a user that is not there is not found, a value that is there is
not stored again, and there is always an answer to an attempt to revoke. -/
def Request.Plain : (r : Request) → r.Answer → Prop
  | .find _, .error f => f = .notFound "refresh token"
  | .tryRevoke _, .error _ => False
  | .add _, .error f => ∃ message, f = .repository message
  | .resolve _, .error f => ∃ resource, f = .notFound resource
  | .fetch _, .error _ => False
  | _, _ => True

namespace Surroundings

theorem run_bind {α β : Type} (c : Call α) (f : α → Call β) (s : Surroundings) :
    s.run (c.bind f) = (s.run c).2.run (f (s.run c).1) := Call.run_bind answer c f s

theorem run_done {α : Type} (a : α) (s : Surroundings) : s.run (.done a) = (a, s) := rfl

theorem run_ask {α : Type} (r : Request) (next : r.Answer → Call α) (s : Surroundings) :
    s.run (.ask r next) = (s.answer r).2.run (next (s.answer r).1) := rfl

structure InMemory (s : Surroundings) : Prop where
  shelf : ∃ shelf, s.cache = .shelf shelf
  sound : s.mishaps = []

theorem inMemory_start (now : Instant) (users : List Descriptor) (values : List String) (shelf : Shelf) :
    (start now users values (.shelf shelf)).InMemory :=
  ⟨⟨shelf, rfl⟩, rfl⟩

/-- With nothing set to fail, who is asked answers. -/
theorem through_of_sound {α : Type} {s : Surroundings} (h : s.mishaps = []) (who : Collaborator)
    (act : Surroundings → Except Fault α × Surroundings) : s.through who act = act s := by
  have hs : { s with mishaps := [] } = s := by rw [← h]
  rw [through, h]
  exact congrArg act hs

variable {s : Surroundings}

theorem reply_resolve (h : s.mishaps = []) (user : Uuid) :
    s.reply (.resolve user) = (s.directory.resolve user, s) := through_of_sound h _ _

theorem reply_fetch (h : s.mishaps = []) {shelf : Shelf} (hshelf : s.cache = .shelf shelf) (key : String) :
    s.reply (.fetch key) = (.ok (shelf.get s.now key), s) := by
  rw [reply, through_of_sound h, fetch, hshelf]

theorem reply_remember (h : s.mishaps = []) {shelf : Shelf} (hshelf : s.cache = .shelf shelf) (key text : String)
    (ttl : Ttl) : s.reply (.remember key text ttl) =
      ((shelf.set s.now key text ttl).1, { s with cache := .shelf (shelf.set s.now key text ttl).2 }) := by
  rw [reply, through_of_sound h, remember, hshelf]

theorem reply_health {shelf : Shelf} (hshelf : s.cache = .shelf shelf) : s.reply .health = (⟨[]⟩, s) := by
  rw [reply, health, hshelf]

theorem InMemory.reply (h : s.InMemory) (r : Request) : r.Plain (s.reply r).1 ∧ (s.reply r).2.InMemory := by
  cases r with
  | find value =>
    simp only [Surroundings.reply, through_of_sound h.sound, RefreshStore.get]
    cases s.store.get? value with
    | none => exact ⟨rfl, h⟩
    | some t => exact ⟨trivial, h⟩
  | tryRevoke value =>
    simp only [Surroundings.reply, tryRevoke, h.sound, takeMishap]
    exact ⟨trivial, h.shelf, rfl⟩
  | add token =>
    simp only [Surroundings.reply, through_of_sound h.sound, add, RefreshStore.add]
    cases s.store.get? token.value with
    | none => exact ⟨trivial, h.shelf, h.sound⟩
    | some t => exact ⟨⟨_, rfl⟩, h.shelf, h.sound⟩
  | resolve user =>
    rw [reply_resolve h.sound, Directory.resolve]
    cases s.directory.users.get? user with
    | none => exact ⟨⟨_, rfl⟩, h⟩
    | some d => exact ⟨trivial, h⟩
  | fetch key =>
    obtain ⟨shelf, hshelf⟩ := h.shelf
    rw [reply_fetch h.sound hshelf]
    exact ⟨trivial, h⟩
  | remember key text ttl =>
    obtain ⟨shelf, hshelf⟩ := h.shelf
    rw [reply_remember h.sound hshelf]
    exact ⟨trivial, ⟨_, rfl⟩, h.sound⟩
  | health =>
    obtain ⟨shelf, hshelf⟩ := h.shelf
    rw [reply_health hshelf]
    exact ⟨trivial, h⟩
  | freshValue bytes =>
    simp only [Surroundings.reply, freshValue]
    split <;> exact ⟨trivial, h.shelf, h.sound⟩
  | _ => exact ⟨trivial, h.shelf, h.sound⟩

/-- Every answer is a plain one, and leaves surroundings of the same kind. -/
theorem InMemory.answer (h : s.InMemory) (r : Request) : r.Plain (s.answer r).1 ∧ (s.answer r).2.InMemory :=
  have hs : { s with asked := s.asked ++ [r] }.InMemory := ⟨h.shelf, h.sound⟩
  hs.reply r

end Surroundings

/-- A service is put together from a policy in order, a store and a directory, and with the cache that was planned. -/
theorem Service.build_eq_ok {plan : Plan} {svc : Service} : build plan = .ok svc ↔
    plan.policy.check = .ok () ∧ plan.hasStore = true ∧ plan.hasDirectory = true ∧
      svc = ⟨plan.policy, plan.cache.map fun (ttl, name) => ⟨Descriptor.codec, ttl, spaceOf name⟩⟩ := by
  obtain ⟨policy, hasStore, hasDirectory, cache⟩ := plan
  simp only [build]
  cases policy.check with
  | error f => simp [bind, Except.bind]
  | ok u =>
    cases hasStore <;> cases hasDirectory <;>
      simp [bind, Except.bind, pure, Except.pure, throw, throwThe, MonadExceptOf.throw, eq_comm]

end Bearer
