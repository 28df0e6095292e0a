import Bearer.Service.Request
/-! A call under way has had some of its requests answered and is left with the rest of itself. `Reaches`
is that relation, for any answers whatever. What is proved of a call along `Reaches` holds between the
steps of all others, since these only decide what the answers are. -/

namespace Bearer

/-- A request with the answer that was given. -/
structure Exchange where
  request : Request
  answer : request.Answer

namespace Call

variable {α β : Type}

inductive Reaches : Call α → List Exchange → Call α → Prop
  | here (c : Call α) : Reaches c [] c
  | there {r : Request} {next : r.Answer → Call α} (a : r.Answer) {xs : List Exchange} {c : Call α} :
      Reaches (next a) xs c → Reaches (ask r next) (⟨r, a⟩ :: xs) c

/-- The call waits for the answer to a request. -/
def Waits (c : Call α) (r : Request) : Prop := ∃ next, c = ask r next

theorem reaches_done {a : α} {xs : List Exchange} {c : Call α} (h : Reaches (done a) xs c) :
    xs = [] ∧ c = done a := by
  cases h with
  | here => exact ⟨rfl, rfl⟩

theorem reaches_ask {r : Request} {next : r.Answer → Call α} {xs : List Exchange} {c : Call α}
    (h : Reaches (ask r next) xs c) :
    (xs = [] ∧ c = ask r next) ∨ ∃ a ys, xs = ⟨r, a⟩ :: ys ∧ Reaches (next a) ys c := by
  cases h with
  | here => exact Or.inl ⟨rfl, rfl⟩
  | there a h => exact Or.inr ⟨a, _, rfl, h⟩

theorem Reaches.trans {c d e : Call α} {xs ys : List Exchange} (h₁ : Reaches c xs d)
    (h₂ : Reaches d ys e) : Reaches c (xs ++ ys) e := by
  induction h₁ with
  | here => exact h₂
  | there a _ ih => exact .there a (ih h₂)

theorem Reaches.snoc {c : Call α} {r : Request} {next : r.Answer → Call α} {xs : List Exchange}
    (h : Reaches c xs (ask r next)) (a : r.Answer) : Reaches c (xs ++ [⟨r, a⟩]) (next a) :=
  h.trans (.there a (.here _))

end Call

end Bearer
