import Bearer.Proofs.Call.Does
/-! What a call has asked and been told on its way to its end, in surroundings that answer every request. A run is
one of the ways that `Reaches` allows, so what is known of these is known of the run. -/

namespace Bearer.Call

variable {α β σ : Type} (answer : (r : Request) → σ → r.Answer × σ)

/-- The exchanges of a run, in order. -/
def trace : Call α → σ → List Exchange
  | done _, _ => []
  | ask r next, s => ⟨r, (answer r s).1⟩ :: trace (next (answer r s).1) (answer r s).2

@[simp] theorem trace_ask (r : Request) (next : r.Answer → Call α) (s : σ) :
    (ask r next).trace answer s =
      ⟨r, (answer r s).1⟩ :: (next (answer r s).1).trace answer (answer r s).2 := rfl

@[simp] theorem run_done (a : α) (s : σ) : (done a).run answer s = (a, s) := rfl

@[simp] theorem run_ask (r : Request) (next : r.Answer → Call α) (s : σ) :
    (ask r next).run answer s = (next (answer r s).1).run answer (answer r s).2 := rfl

theorem trace_bind (c : Call α) (f : α → Call β) (s : σ) :
    (c.bind f).trace answer s =
      c.trace answer s ++ (f (c.run answer s).1).trace answer (c.run answer s).2 := by
  induction c generalizing s with
  | done a => rfl
  | ask r next ih => simp [ih]

/-- Nothing is asked on the way that may not be asked. -/
theorem Does.mem_trace {P : Request → Prop} {Q : α → Prop} {c : Call α} (h : c.Does P Q) {s : σ} :
    ∀ x ∈ c.trace answer s, P x.request := by
  induction c generalizing s with
  | done a => exact fun x hx => nomatch hx
  | ask r next ih =>
    intro x hx
    rcases List.mem_cons.1 hx with rfl | hx
    · exact h.1
    · exact ih _ (h.2 _) x hx

end Bearer.Call
