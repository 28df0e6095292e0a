import Bearer.Proofs.Call.Action
import Bearer.Proofs.Call.Reach
/-! What a call may ever ask and what it may give back, whatever it is answered. Of an action only its
results count, not its faults; the equations here take an action apart along its own text. -/

namespace Bearer

namespace Call

variable {α β : Type} {P : Request → Prop}

/-- All that a call may ever ask and all that it may ever give back. -/
def Does (P : Request → Prop) (Q : α → Prop) : Call α → Prop
  | done a => Q a
  | ask r next => P r ∧ ∀ a, (next a).Does P Q

@[simp] theorem does_done (Q : α → Prop) (a : α) : (done a).Does P Q ↔ Q a := Iff.rfl

@[simp] theorem does_ask (Q : α → Prop) (r : Request) (next : r.Answer → Call α) :
    (ask r next).Does P Q ↔ P r ∧ ∀ a, (next a).Does P Q := Iff.rfl

@[simp] theorem does_bind (Q : β → Prop) (c : Call α) (f : α → Call β) :
    (c.bind f).Does P Q ↔ c.Does P fun a => (f a).Does P Q := by
  induction c with
  | done a => rfl
  | ask r next ih => simp only [ask_bind, does_ask, ih]

theorem Does.mono {Q R : α → Prop} {c : Call α} (h : c.Does P Q) (hQ : ∀ a, Q a → R a) : c.Does P R := by
  induction c with
  | done a => exact hQ a h
  | ask r next ih => exact ⟨h.1, fun a => ih a (h.2 a)⟩

theorem Does.weaken {R : Request → Prop} {Q : α → Prop} {c : Call α} (h : c.Does P Q) (hR : ∀ r, P r → R r) :
    c.Does R Q := by
  induction c with
  | done a => exact h
  | ask r next ih => exact ⟨hR r h.1, fun a => ih a (h.2 a)⟩

theorem Reaches.does {Q : α → Prop} {c d : Call α} {xs : List Exchange} (h : Reaches c xs d)
    (hc : c.Does P Q) : d.Does P Q := by
  induction h with
  | here => exact hc
  | there a _ ih => exact ih (hc.2 a)

end Call

namespace Action

variable {α β : Type} {P : Request → Prop}

/-- All that an action may ever ask and all results that it may ever have. -/
def Does (P : Request → Prop) (Q : α → Prop) (a : Action α) : Prop :=
  a.run.Does P fun
    | .ok v => Q v
    | .error _ => True

@[simp] theorem does_bind (Q : β → Prop) (a : Action α) (f : α → Action β) :
    Does P Q (a >>= f) ↔ Does P (fun v => Does P Q (f v)) a := by
  rw [Does, run_bind, Call.does_bind, Does]
  refine iff_of_eq (congrArg (a.run.Does P) (funext fun r => ?_))
  cases r <;> rfl

theorem does_true {a : Action α} : Does P (fun _ => True) a ↔ a.run.Does P fun _ => True := by
  refine iff_of_eq (congrArg (a.run.Does P) (funext fun r => ?_))
  cases r <;> rfl

theorem Does.mono {Q R : α → Prop} {a : Action α} (h : Does P Q a) (hQ : ∀ v, Q v → R v) : Does P R a := by
  refine Call.Does.mono h fun r hr => ?_
  cases r with
  | ok v => exact hQ v hr
  | error e => trivial

variable (Q : α → Prop)

@[simp] theorem does_pure (v : α) : Does P Q (pure v) ↔ Q v := Iff.rfl
@[simp] theorem does_throw (e : Fault) : Does P Q (throw e) := trivial
@[simp] theorem does_ofExcept (r : Except Fault α) : Does P Q (ofExcept r) ↔ ∀ v, r = .ok v → Q v := by
  cases r <;> simp [Does]

@[simp] theorem does_ite (b : Prop) [Decidable b] (a a' : Action α) :
    Does P Q (if b then a else a') ↔ (b → Does P Q a) ∧ (¬b → Does P Q a') := by
  by_cases hb : b <;> simp [hb]

@[simp] theorem does_lift (c : Call α) : Does P Q (ExceptT.lift c) ↔ c.Does P Q := by
  rw [Does, run_lift, Call.does_bind]
  rfl

@[simp] theorem does_mapFault (g : Fault → Fault) (a : Action α) :
    Does P Q (a.mapFault g) ↔ Does P Q a := by
  rw [Does, run_mapFault, Call.does_bind, Does]
  refine iff_of_eq (congrArg (a.run.Does P) (funext fun r => ?_))
  cases r <;> rfl

theorem forall_answer {R : Except Fault α → Prop} :
    (∀ r, R r) ↔ (∀ e, R (.error e)) ∧ ∀ v, R (.ok v) :=
  ⟨fun h => ⟨fun e => h _, fun v => h _⟩, fun h r => by cases r with
    | error e => exact h.1 e
    | ok v => exact h.2 v⟩

@[simp] theorem does_now (Q : Instant → Prop) : Does P Q now ↔ P .now ∧ ∀ t, Q t := Iff.rfl
@[simp] theorem does_freshId (Q : Uuid → Prop) : Does P Q freshId ↔ P .freshId ∧ ∀ id, Q id := Iff.rfl
@[simp] theorem does_freshValue (Q : String → Prop) (n : Nat) :
    Does P Q (freshValue n) ↔ P (.freshValue n) ∧ ∀ v, Q v := Iff.rfl
@[simp] theorem does_find (Q : Token → Prop) (v : String) :
    Does P Q (find v) ↔ P (.find v) ∧ ∀ t, Q t := by simp [Does, forall_answer]
@[simp] theorem does_tryRevoke (Q : Bool → Prop) (v : String) :
    Does P Q (tryRevoke v) ↔ P (.tryRevoke v) ∧ ∀ won, Q won := by simp [Does, forall_answer]
@[simp] theorem does_add (Q : Unit → Prop) (t : Token) : Does P Q (add t) ↔ P (.add t) ∧ ∀ u, Q u := by
  simp [Does, forall_answer]
@[simp] theorem does_resolve (Q : Descriptor → Prop) (user : Uuid) :
    Does P Q (resolve user) ↔ P (.resolve user) ∧ ∀ d, Q d := by
  simp [Does, resolve, Call.request, forall_answer]
@[simp] theorem does_fetch (Q : Option String → Prop) (key : String) :
    Does P Q (fetch key) ↔ P (.fetch key) ∧ ∀ text, Q text := by
  simp [Does, fetch, Call.request, forall_answer]
@[simp] theorem does_remember (Q : Unit → Prop) (key text : String) (ttl : Ttl) :
    Does P Q (remember key text ttl) ↔ P (.remember key text ttl) ∧ ∀ u, Q u := by
  simp [Does, remember, Call.request, forall_answer]

end Action

end Bearer
