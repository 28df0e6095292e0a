import Bearer.Proofs.Pool.Run
/-! Runs in which one call follows another. Such a run is the same as bringing the calls to their ends one by
one, each over what those before it have left. -/

namespace Bearer

variable {σ : Type} (Replies : σ → (r : Request) → r.Answer → σ → Prop)

/-- A call alone with what is shared: what it finds, what it comes to, and what it leaves behind. -/
inductive Call.Ends {α : Type} : Call α → σ → α → σ → Prop
  | done (a : α) (s : σ) : Ends (.done a) s a s
  | ask {r : Request} {next : r.Answer → Call α} {s s' s'' : σ} {b : α} (a : r.Answer) :
      Replies s r a s' → Ends (next a) s' b s'' → Ends (.ask r next) s b s''

namespace Pool

variable {ω : Type} {Result : ω → Type} (perform : (op : ω) → Call (Result op))

/-- A call that has come to its end. -/
def finished (x : (op : ω) × Result op) : (op : ω) × Call (Result op) := ⟨x.1, .done x.2⟩

/-- The log of so many calls, each of which is begun and given all of its answers before the next. -/
inductive Serial : Nat → List (Event ω) → Prop
  | nil : Serial 0 []
  | snoc {n : Nat} {log : List (Event ω)} (op : ω) (xs : List Exchange) :
      Serial n log → Serial (n + 1) (log ++ .begun op :: xs.map (.answered n))

/-- Calls that are brought to their ends one by one. -/
inductive Serially (s : σ) : List ((op : ω) × Result op) → σ → Prop
  | nil : Serially s [] s
  | snoc {t t' : σ} {xs : List ((op : ω) × Result op)} {op : ω} {a : Result op} :
      Serially s xs t → (perform op).Ends Replies t a t' → Serially s (xs ++ [⟨op, a⟩]) t'

variable {perform} {Replies}

/-- The call that was begun last can be brought to its end at once. -/
theorem Run.finish {p : Pool σ Result} {log : List (Event ω)} {cs : List ((op : ω) × Call (Result op))} {op : ω}
    {c : Call (Result op)} {s s' : σ} {a : Result op} (h : Run perform Replies p log ⟨s, cs ++ [⟨op, c⟩]⟩)
    (hc : c.Ends Replies s a s') : ∃ xs : List Exchange,
      Run perform Replies p (log ++ xs.map (.answered cs.length)) ⟨s', cs ++ [⟨op, .done a⟩]⟩ := by
  induction hc generalizing log with
  | done a s => exact ⟨[], by simpa using h⟩
  | @ask r next s s' s'' b a hr _ ih =>
    have hstep := h.snoc (.answer a List.getElem?_concat_length hr)
    rw [List.set_append_right _ _ (Nat.le_refl _), Nat.sub_self, List.set_cons_zero] at hstep
    obtain ⟨xs, hxs⟩ := ih hstep
    exact ⟨⟨r, a⟩ :: xs, by simpa using hxs⟩

theorem Serially.run {s t : σ} {xs : List ((op : ω) × Result op)} (h : Serially Replies perform s xs t) :
    ∃ log, Serial xs.length log ∧ Run perform Replies (start s) log ⟨t, xs.map finished⟩ := by
  induction h with
  | nil => exact ⟨[], .nil, .nil _⟩
  | @snoc t t' xs op a _ hc ih =>
    obtain ⟨log, hserial, hrun⟩ := ih
    obtain ⟨ys, hys⟩ := (hrun.snoc (.begin _ op)).finish hc
    refine ⟨log ++ .begun op :: ys.map (.answered xs.length), ?_, ?_⟩
    · rw [List.length_append, List.length_singleton]
      exact .snoc op ys hserial
    · simpa [finished] using hys

end Pool

end Bearer
