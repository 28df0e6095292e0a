import Bearer.Proofs.Cache.FailsOpen
import Bearer.Proofs.Cache.Fresh
import Bearer.Proofs.Service.InMemory
/-! Under the key of a user the shelf holds descriptors of that user alone, since nothing but lookups writes to it
and the directory names every user by his own identifier. A lookup need not check whose descriptor it has found. -/

namespace Bearer

/-- What the directory should answer: a descriptor of the user that was asked for. -/
def Request.Truthful : (r : Request) → r.Answer → Prop
  | .resolve user, .ok d => d.user = user
  | _, _ => True

namespace TypedCache

/-- A text that can be read under the key of a user describes that user. -/
def Owns (c : TypedCache Descriptor) (key text : String) : Prop :=
  ∀ user d, key = c.userKey user → c.codec.decode text = some d → d.user = user

/-- Nothing is cached but what belongs under its key. -/
def Allows (c : TypedCache Descriptor) : Request → Prop
  | .remember key text _ => c.Owns key text
  | _ => True

end TypedCache

section

variable {ttl : Ttl} {space : List Char}

theorem Descriptor.owns_encode {d : Descriptor} {text : String} (h : codec.encode d = some text) :
    (cache ttl space).Owns ((cache ttl space).userKey d.user) text := by
  intro user d' hkey hd'
  obtain rfl := TypedCache.userKey_injective _ hkey
  cases (Descriptor.decode_encode h).symm.trans hd'
  rfl

theorem Descriptor.behaves_lookup (user : Uuid) :
    ((cache ttl space).lookup user).run.Behaves Request.Truthful (cache ttl space).Allows fun _ => True := by
  rw [TypedCache.run_lookup]
  refine ⟨trivial, fun r _ => ?_⟩
  dsimp only
  cases (cache ttl space).hit? r with
  | some d => trivial
  | none =>
    refine ⟨trivial, fun a ha => ?_⟩
    cases a with
    | error f => trivial
    | ok d =>
      obtain rfl : d.user = user := ha
      cases htext : (cache ttl space).codec.encode d with
      | none => trivial
      | some text =>
        simp only [htext]
        exact ⟨Descriptor.owns_encode htext, fun _ _ => trivial⟩

end

namespace Surroundings

/-- The directory and the shelf have every user under his own identifier. -/
structure Accurate (c : TypedCache Descriptor) (s : Surroundings) : Prop extends s.InMemory where
  keyed : s.directory.Keyed
  owned : ∀ shelf key e, s.cache = .shelf shelf → shelf.entries.get? key = some e → c.Owns key e.text

variable {c : TypedCache Descriptor} {s : Surroundings}

theorem accurate_start (c : TypedCache Descriptor) (now : Instant) (users : List Descriptor) (values : List String) :
    (start now users values (.shelf Shelf.empty)).Accurate c where
  toInMemory := inMemory_start now users values Shelf.empty
  keyed := Directory.keyed_ofList users
  owned shelf key e hshelf he := by
    cases hshelf
    cases he

/-- What has been asked is on record only. -/
theorem Accurate.recorded (h : s.Accurate c) (asked : List Request) : { s with asked := asked }.Accurate c :=
  ⟨⟨h.shelf, h.sound⟩, h.keyed, h.owned⟩

theorem Accurate.reply (h : s.Accurate c) {r : Request} (hr : c.Allows r) :
    r.Truthful (s.reply r).1 ∧ (s.reply r).2.Accurate c := by
  have hmem := (h.toInMemory.reply r).2
  obtain ⟨shelf, hshelf⟩ := h.shelf
  cases r with
  | resolve user =>
    rw [reply_resolve h.sound]
    refine ⟨?_, h⟩
    cases hd : s.directory.resolve user with
    | error f => trivial
    | ok d => exact h.keyed.user_of_resolve hd
  | remember key text ttl =>
    rw [reply_remember h.sound hshelf] at hmem ⊢
    refine ⟨trivial, hmem, h.keyed, fun shelf' k e hshelf' he => ?_⟩
    cases hshelf'
    rcases Shelf.entry_of_set he with he | ⟨rfl, -, rfl, -⟩
    · exact h.owned shelf k e hshelf he
    · exact hr
  | fetch key =>
    rw [reply_fetch h.sound hshelf]
    exact ⟨trivial, h⟩
  | health =>
    rw [reply_health hshelf]
    exact ⟨trivial, h⟩
  | find value =>
    simp only [Surroundings.reply, through_of_sound h.sound]
    exact ⟨trivial, h⟩
  | add token =>
    simp only [Surroundings.reply, through_of_sound h.sound, add] at hmem ⊢
    exact ⟨trivial, hmem, h.keyed, h.owned⟩
  | tryRevoke value =>
    simp only [Surroundings.reply, tryRevoke, h.sound, takeMishap] at hmem ⊢
    exact ⟨trivial, hmem, h.keyed, h.owned⟩
  | freshValue bytes =>
    simp only [Surroundings.reply, freshValue]
    split <;> exact ⟨trivial, ⟨h.shelf, h.sound⟩, h.keyed, h.owned⟩
  | _ => exact ⟨trivial, hmem, h.keyed, h.owned⟩

/-- The directory tells the truth, and the shelf takes nothing but what belongs on it. -/
theorem Accurate.answer (h : s.Accurate c) {r : Request} (hr : c.Allows r) :
    r.Truthful (s.answer r).1 ∧ (s.answer r).2.Accurate c :=
  (h.recorded _).reply hr

theorem Accurate.later (h : s.Accurate c) (now : Instant) : { s with now := now }.Accurate c :=
  ⟨⟨h.shelf, h.sound⟩, h.keyed, h.owned⟩

theorem Accurate.enter (h : s.Accurate c) (d : Descriptor) :
    { s with directory := s.directory.insert d }.Accurate c :=
  ⟨⟨h.shelf, h.sound⟩, h.keyed.insert d, h.owned⟩

theorem Accurate.leave (h : s.Accurate c) (user : Uuid) :
    { s with directory := (s.directory.remove user).2 }.Accurate c :=
  ⟨⟨h.shelf, h.sound⟩, h.keyed.remove user, h.owned⟩

/-- A lookup finds what is on the shelf, and what is not there in the directory. -/
theorem InMemory.lookup (h : s.InMemory) {shelf : Shelf} (hshelf : s.cache = .shelf shelf) (user : Uuid) :
    (s.run (c.lookup user).run).1 =
      match c.hit? (.ok (shelf.get s.now (c.userKey user))) with
      | some d => .ok d
      | none => s.directory.resolve user := by
  let s₁ : Surroundings := { s with asked := s.asked ++ [.fetch (c.userKey user)] }
  let s₂ : Surroundings := { s₁ with asked := s₁.asked ++ [.resolve user] }
  have hfetch : s.answer (.fetch (c.userKey user)) = (.ok (shelf.get s.now (c.userKey user)), s₁) :=
    reply_fetch (s := s₁) h.sound hshelf _
  have hresolve : s₁.answer (.resolve user) = (s.directory.resolve user, s₂) := reply_resolve (s := s₂) h.sound _
  have hresult := c.result_lookup Surroundings.answer user s
  rw [hfetch, hresolve] at hresult
  exact hresult

/-- Found where it may, a descriptor is that of the user. -/
theorem Accurate.user_of_lookup (h : s.Accurate c) {user : Uuid} {d : Descriptor}
    (hd : (s.run (c.lookup user).run).1 = .ok d) : d.user = user := by
  obtain ⟨shelf, hshelf⟩ := h.shelf
  rw [h.toInMemory.lookup hshelf] at hd
  split at hd
  · next hhit =>
    cases hd
    obtain ⟨text, htext, hd⟩ := TypedCache.hit?_eq_some.1 hhit
    obtain ⟨e, he, -, rfl⟩ := Shelf.get_eq_some.1 (Except.ok.inj htext)
    exact h.owned shelf _ e hshelf he user d rfl hd
  · exact h.keyed.user_of_resolve hd

end Surroundings

end Bearer
