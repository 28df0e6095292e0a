import Bearer.Proofs.Call.Does
/-! What a call asks and comes to as long as its answers are what they should be. The answers are the business
of the surroundings, so a call that behaves can be put into any surroundings that answer well what is asked
well. -/

namespace Bearer

namespace Call

variable {α β σ : Type} {A : (r : Request) → r.Answer → Prop} {P : Request → Prop}

/-- Told only what `A` says, the call asks only what `P` allows, and its result is as `Q` says. -/
def Behaves (A : (r : Request) → r.Answer → Prop) (P : Request → Prop) (Q : α → Prop) : Call α → Prop
  | done a => Q a
  | ask r next => P r ∧ ∀ a, A r a → (next a).Behaves A P Q

@[simp] theorem behaves_ask (Q : α → Prop) (r : Request) (next : r.Answer → Call α) :
    (ask r next).Behaves A P Q ↔ P r ∧ ∀ a, A r a → (next a).Behaves A P Q := Iff.rfl

@[simp] theorem behaves_bind (Q : β → Prop) (c : Call α) (f : α → Call β) :
    (c.bind f).Behaves A P Q ↔ c.Behaves A P fun a => (f a).Behaves A P Q := by
  induction c with
  | done a => rfl
  | ask r next ih => simp only [ask_bind, behaves_ask, ih]

theorem Behaves.mono {Q R : α → Prop} {c : Call α} (h : c.Behaves A P Q) (hQ : ∀ a, Q a → R a) :
    c.Behaves A P R := by
  induction c with
  | done a => exact hQ a h
  | ask r next ih => exact ⟨h.1, fun a ha => ih a (h.2 a ha)⟩

theorem Behaves.weaken {R : Request → Prop} {Q : α → Prop} {c : Call α} (h : c.Behaves A P Q)
    (hR : ∀ r, P r → R r) : c.Behaves A R Q := by
  induction c with
  | done a => exact h
  | ask r next ih => exact ⟨hR r h.1, fun a ha => ih a (h.2 a ha)⟩

/-- What is left of a call that was answered well. -/
theorem Reaches.behaves {Q : α → Prop} {c d : Call α} {xs : List Exchange} (h : Reaches c xs d)
    (hc : c.Behaves A P Q) (hxs : ∀ x ∈ xs, A x.request x.answer) : d.Behaves A P Q := by
  induction h with
  | here => exact hc
  | there a _ ih =>
    obtain ⟨ha, hxs⟩ := List.forall_mem_cons.1 hxs
    exact ih (hc.2 a ha) hxs

/-- What a call does whatever it is answered, it does when it is answered well. -/
theorem Does.behaves {Q : α → Prop} {c : Call α} (h : c.Does P Q) : c.Behaves A P Q := by
  induction c with
  | done a => exact h
  | ask r next ih => exact ⟨h.1, fun a _ => ih a (h.2 a)⟩

/-- Surroundings that keep `I`, and answer well as long as it holds, keep it over a whole call. -/
theorem Behaves.run {I : σ → Prop} {answer : (r : Request) → σ → r.Answer × σ} {Q : α → Prop} {c : Call α}
    (h : c.Behaves A P Q) (hanswer : ∀ r s, I s → P r → A r (answer r s).1 ∧ I (answer r s).2) {s : σ} (hs : I s) :
    Q (c.run answer s).1 ∧ I (c.run answer s).2 := by
  induction c generalizing s with
  | done a => exact ⟨h, hs⟩
  | ask r next ih =>
    obtain ⟨ha, hs'⟩ := hanswer r s hs h.1
    exact ih _ (h.2 _ ha) hs'

end Call

namespace Action

variable {α β : Type} {A : (r : Request) → r.Answer → Prop} {P : Request → Prop}

/-- Told only what `A` says, the action asks only what `P` allows, and any result of it is as `Q` says. -/
def Behaves (A : (r : Request) → r.Answer → Prop) (P : Request → Prop) (Q : α → Prop) (a : Action α) : Prop :=
  a.run.Behaves A P fun
    | .ok v => Q v
    | .error _ => True

theorem Behaves.mono {Q R : α → Prop} {a : Action α} (h : Behaves A P Q a) (hQ : ∀ v, Q v → R v) :
    Behaves A P R a := by
  refine Call.Behaves.mono h fun r hr => ?_
  cases r with
  | ok v => exact hQ v hr
  | error e => trivial

@[simp] theorem behaves_bind (Q : β → Prop) (a : Action α) (f : α → Action β) :
    Behaves A P Q (a >>= f) ↔ Behaves A P (fun v => Behaves A P Q (f v)) a := by
  rw [Behaves, run_bind, Call.behaves_bind, Behaves]
  refine iff_of_eq (congrArg (a.run.Behaves A P) (funext fun r => ?_))
  cases r <;> rfl

variable (Q : α → Prop)

@[simp] theorem behaves_pure (v : α) : Behaves A P Q (pure v) ↔ Q v := Iff.rfl
@[simp] theorem behaves_throw (e : Fault) : Behaves A P Q (throw e) := trivial
@[simp] theorem behaves_ofExcept (r : Except Fault α) : Behaves A P Q (ofExcept r) ↔ ∀ v, r = .ok v → Q v := by
  cases r <;> simp [Behaves, Call.Behaves]

@[simp] theorem behaves_ite (b : Prop) [Decidable b] (a a' : Action α) :
    Behaves A P Q (if b then a else a') ↔ (b → Behaves A P Q a) ∧ (¬b → Behaves A P Q a') := by
  by_cases hb : b <;> simp [hb]

@[simp] theorem behaves_mapFault (g : Fault → Fault) (a : Action α) :
    Behaves A P Q (a.mapFault g) ↔ Behaves A P Q a := by
  rw [Behaves, run_mapFault, Call.behaves_bind, Behaves]
  refine iff_of_eq (congrArg (a.run.Behaves A P) (funext fun r => ?_))
  cases r <;> rfl

@[simp] theorem behaves_now (Q : Instant → Prop) : Behaves A P Q now ↔ P .now ∧ ∀ t, A .now t → Q t := Iff.rfl
@[simp] theorem behaves_freshId (Q : Uuid → Prop) :
    Behaves A P Q freshId ↔ P .freshId ∧ ∀ id, A .freshId id → Q id := Iff.rfl
@[simp] theorem behaves_freshValue (Q : String → Prop) (n : Nat) :
    Behaves A P Q (freshValue n) ↔ P (.freshValue n) ∧ ∀ v, A (.freshValue n) v → Q v := Iff.rfl
@[simp] theorem behaves_find (Q : Token → Prop) (v : String) :
    Behaves A P Q (find v) ↔ P (.find v) ∧ ∀ t, A (.find v) (.ok t) → Q t := by
  simp [Behaves, Call.Behaves, forall_answer]
@[simp] theorem behaves_tryRevoke (Q : Bool → Prop) (v : String) :
    Behaves A P Q (tryRevoke v) ↔ P (.tryRevoke v) ∧ ∀ won, A (.tryRevoke v) (.ok won) → Q won := by
  simp [Behaves, Call.Behaves, forall_answer]
@[simp] theorem behaves_add (Q : Unit → Prop) (t : Token) :
    Behaves A P Q (add t) ↔ P (.add t) ∧ ∀ u, A (.add t) (.ok u) → Q u := by
  simp [Behaves, Call.Behaves, forall_answer]

end Action

end Bearer
