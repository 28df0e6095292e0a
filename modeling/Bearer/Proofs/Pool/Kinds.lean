import Bearer.Proofs.Pool.Stored
import Bearer.Proofs.Service.Minted
import Bearer.Proofs.Signing.Parts
import Bearer.Service.Generators
/-! The two kinds of tokens are never taken for one another. A signed token has dots and a drawn value has none, so a
store of drawn values knows no signed one, and what has no dot has no signature to be verified. -/

namespace Bearer

open Pool

namespace Hex

theorem digit_ne_dot : ∀ n, n < 16 → digit n ≠ '.' := by decide

theorem dot_notMem_encode (bytes : List UInt8) : '.' ∉ (encode bytes).toList := by
  intro h
  rw [encode, String.toList_ofList] at h
  obtain ⟨b, -, hb⟩ := List.mem_flatMap.1 h
  have hlt := b.toNat_lt
  simp only [ofByte, List.mem_cons, List.not_mem_nil, or_false] at hb
  rcases hb with hdot | hdot
  · exact digit_ne_dot _ (by omega) hdot.symm
  · exact digit_ne_dot _ (by omega) hdot.symm

end Hex

/-- A text with the mark that parts a signed token. -/
def HasDot (v : String) : Prop := '.' ∈ v.toList

/-- The two values of a pair are told apart by the dot. -/
def Apart (access refresh : String) : Prop := HasDot access ∧ ¬HasDot refresh

theorem not_hasDot_refreshValue (bytes : List UInt8) : ¬HasDot (refreshValue bytes) := Hex.dot_notMem_encode bytes

/-- The generator of refresh values writes as many bytes as it is asked for, whichever they are. -/
def Request.Drawn : (r : Request) → r.Answer → Prop
  | .freshValue n, v => ∃ bytes : List UInt8, bytes.length = n ∧ v = refreshValue bytes
  | _, _ => True

/-- What is to be stored has no dot. -/
def Request.StoresDotless : Request → Prop
  | .add t => ¬HasDot t.value
  | _ => True

namespace Policy

variable {p : Policy}

theorem hasDot_of_sign {c : Claims} {id : Option Uuid} {token : String} (h : p.sign c id = .ok token) :
    HasDot token := by
  unfold sign at h
  split at h
  · cases h
  · rw [← Except.ok.inj h, HasDot, String.toList_ofList]
    simp

/-- What has no dot has no signature. -/
theorem claims?_of_dotless {token : String} (h : ¬HasDot token) : p.claims? token = none := by
  unfold claims?
  cases p.algorithm.hash? with
  | none => rfl
  | some hash =>
    cases hsplit : Signing.splitLast? token.toList with
    | none => rfl
    | some x =>
      have htoken := (Signing.splitLast?_eq_some.1 hsplit).1
      exact absurd (by simp [HasDot, htoken]) h

theorem run_verify_of_dotless {token : String} (h : ¬HasDot token) :
    (p.verify token).run = .done (.error (.token .invalid)) := by
  rw [run_verify, claims?_of_dotless h]

theorem storesDotless_of_storesDrawn {r : Request} (h : p.StoresDrawn Request.Drawn r) : r.StoresDotless := by
  cases r with
  | add t =>
    obtain ⟨bytes, -, hvalue⟩ := h
    rw [Request.StoresDotless, hvalue]
    exact not_hasDot_refreshValue bytes
  | _ => trivial

/-- A signed token has a dot, and a drawn value has none. -/
theorem GrantedOf.apart {g : Grant} (h : p.GrantedOf Request.Drawn g) : Apart g.access g.refresh := by
  obtain ⟨user, now, pair, -, hpair, rfl⟩ := h
  obtain ⟨bytes, -, hvalue⟩ := hpair.drawn
  refine ⟨hasDot_of_sign hpair.signed, ?_⟩
  rw [TokenPair.grant, hvalue]
  exact not_hasDot_refreshValue bytes

end Policy

namespace Service

variable {svc : Service}

section Run

variable {log : List (Event Operation)} {pool : Pool RefreshStore Operation.Outcome}

/-- All refresh values of a run are drawn. -/
def Drawn (log : List (Event Operation)) : Prop := ∀ i x, .answered i x ∈ log → x.request.Drawn x.answer

theorem behaves_of_run {s : RefreshStore} (h : svc.Run (.start s) log pool) (hdrawn : Drawn log) {i : Nat}
    {op : Operation} {c : Call op.Outcome} (hi : pool.calls[i]? = some ⟨op, c⟩) :
    c.Behaves Request.Drawn Request.StoresDotless fun r => ∀ g, op.Grants g r → Apart g.access g.refresh := by
  have hbehaves := (h.reaches_of_start hi).behaves (svc.behaves_perform op) fun x hx => hdrawn i x (mem_history.1 hx)
  refine (hbehaves.weaken fun _ => Policy.storesDotless_of_storesDrawn).mono fun r hr g hg => ?_
  exact (hr g hg).apart

/-- No signed token is a key of the store. -/
theorem not_hasDot_of_stored (h : svc.Run (.start .empty) log pool) (hdrawn : Drawn log) {key : String} {t : Token}
    (ht : pool.shared.get? key = some t) : ¬HasDot key := by
  induction h generalizing t with
  | nil => cases ht
  | @snoc m n log e hm hs ih =>
    have hbefore : Drawn log := fun i x hx => hdrawn i x (List.mem_append_left _ hx)
    cases hs with
    | begin => exact ih hbefore ht
    | answer a hi hr =>
      rcases hr.entry ht with ⟨old, hold, -⟩ | ⟨rfl, rfl⟩
      · exact ih hbefore hold
      · exact (behaves_of_run hm hbefore hi).1

/-- A call to which a value was presented that the store does not know asks for nothing else and is told so. -/
structure Refused (svc : Service) (pool : Pool RefreshStore Operation.Outcome) (log : List (Event Operation)) (i : Nat)
    (v : String) {op : Operation} (c : Call op.Outcome) : Prop where
  unknown : pool.shared.get v = .error (.notFound "refresh token")
  answered :
    (history i log = [] ∧ ∃ next, c = .ask (.find v) next ∧
      next (.error (.notFound "refresh token")) = .done (.error (.token .invalid))) ∨
    (history i log = [⟨.find v, .error (.notFound "refresh token")⟩] ∧ c = .done (.error (.token .invalid)))
  unchanged : ∀ x pool', Step svc.perform RefreshStore.Replies pool (.answered i x) pool' → pool'.shared = pool.shared

/-- Whoever is presented a refresh value looks it up first, and has no use for one that is not found. -/
theorem perform_presented {op : Operation} {v : String} (hop : op.presented = some v) :
    ∃ next, svc.perform op = .ask (.find v) next ∧ ∀ f : Fault, next (.error f) = .done (.error f.missAsInvalid) := by
  rcases Operation.presented_eq_some.1 hop with rfl | rfl
  · have hperform := Action.run_bind (svc.policy.rotate v) fun pair => pure pair.grant
    rw [Policy.run_rotate, Call.ask_bind] at hperform
    exact ⟨_, hperform, fun f => rfl⟩
  · exact ⟨_, run_withdraw v, fun f => rfl⟩

theorem refused_of_hasDot (h : svc.Run (.start .empty) log pool) (hdrawn : Drawn log) {i : Nat} {op : Operation}
    {c : Call op.Outcome} {v : String} (hi : pool.calls[i]? = some ⟨op, c⟩) (hop : op.presented = some v)
    (hdot : HasDot v) : svc.Refused pool log i v c := by
  have hmissing : pool.shared.get? v = none :=
    Option.eq_none_iff_forall_ne_some.2 fun t ht => not_hasDot_of_stored h hdrawn ht hdot
  have hanswered :
      (history i log = [] ∧ ∃ next, c = .ask (.find v) next ∧
        next (.error (.notFound "refresh token")) = .done (.error (.token .invalid))) ∨
      (history i log = [⟨.find v, .error (.notFound "refresh token")⟩] ∧ c = .done (.error (.token .invalid))) := by
    obtain ⟨next, hperform, hnext⟩ := svc.perform_presented hop
    have hreaches := h.reaches_of_start hi
    rw [hperform] at hreaches
    rcases Call.reaches_ask hreaches with ⟨hxs, rfl⟩ | ⟨a, ys, hxs, hrest⟩
    · exact Or.inl ⟨hxs, next, rfl, hnext _⟩
    · have hfind : .answered i ⟨.find v, a⟩ ∈ log := mem_history.1 (by simp [hxs])
      cases a with
      | ok t =>
        rcases h.stored_of_found hfind with ht | ht <;>
        · rw [hmissing] at ht
          cases ht
      | error f =>
        obtain ⟨rfl, -⟩ := h.missing_of_missed hfind
        rw [hnext] at hrest
        obtain ⟨rfl, rfl⟩ := Call.reaches_done hrest
        exact Or.inr ⟨hxs, rfl⟩
  refine ⟨RefreshStore.get_eq_error.2 ⟨hmissing, rfl⟩, hanswered, fun x pool' hs => ?_⟩
  cases hs with
  | answer a hj hr =>
    rw [hi] at hj
    cases hj
    rcases hanswered with ⟨-, next, hc, -⟩ | ⟨-, hc⟩
    · cases hc
      exact hr.2
    · cases hc

/-- The tokens of a grant are not taken for one another: at any time of a run whose refresh values are drawn, the
access token is an unknown refresh value to every call to which it is presented, and the refresh value is invalid to
all who verify it. -/
theorem token_kinds_apart (h : svc.Run (.start .empty) log pool) (hdrawn : Drawn log) {i : Nat} {op : Operation}
    {r : op.Outcome} {g : Grant} (hi : pool.calls[i]? = some ⟨op, .done r⟩) (hg : op.Grants g r) :
    (∀ (j : Nat) (op : Operation) (c : Call op.Outcome), pool.calls[j]? = some ⟨op, c⟩ →
      (op = .refresh g.access ∨ op = .revoke g.access) → svc.Refused pool log j g.access c) ∧
    (svc.policy.verify g.refresh).run = .done (.error (.token .invalid)) ∧
    (svc.validate g.refresh).run = .done (.error (.token .invalid)) ∧
    svc.isValid g.refresh = .done false ∧
    (svc.introspect g.refresh).run = .done (.error (.token .invalid)) := by
  obtain ⟨haccess, hrefresh⟩ : Apart g.access g.refresh := behaves_of_run h hdrawn hi g hg
  have hverify : (svc.policy.verify g.refresh).run = .done (.error (.token .invalid)) :=
    Policy.run_verify_of_dotless hrefresh
  have hvalidate : (svc.validate g.refresh).run = .done (.error (.token .invalid)) := by
    rw [run_validate, hverify]
    rfl
  refine ⟨fun j op c hj hop => ?_, hverify, hvalidate, ?_, ?_⟩
  · exact refused_of_hasDot h hdrawn hj (Operation.presented_eq_some.2 hop) haccess
  · rw [isValid_eq, hvalidate]
    rfl
  · rw [run_introspect, hverify]
    rfl

/-- A pair is issued, and its access token is presented for exchange. -/
theorem token_kinds_apart_issued : ∃ log pool g,
    Service.Run ⟨.development, none⟩ (.start .empty) log pool ∧ Drawn log ∧
      pool.calls = [⟨.issue "00000000-0000-0000-0000-000000000007", .done (.ok g)⟩,
        ⟨.refresh g.access, .done (.error (.token .invalid))⟩] ∧
      (Service.validate ⟨.development, none⟩ g.refresh).run = .done (.error (.token .invalid)) := by
  obtain ⟨log, pool, g, h, hdrawn, hcalls⟩ : ∃ log pool g,
      Service.Run ⟨.development, none⟩ (.start .empty) log pool ∧ Drawn log ∧
        pool.calls = [⟨.issue "00000000-0000-0000-0000-000000000007", .done (.ok g)⟩] := by
    have h := (Run.nil _ : Service.Run ⟨.development, none⟩ (.start .empty) [] _)
    have h := h.snoc (.begin _ (.issue "00000000-0000-0000-0000-000000000007"))
    have h := h.snoc (.answer (i := 0) (r := .now) default rfl rfl)
    have h := h.snoc (.answer (i := 0) (r := .freshId) (Uuid.ofNat 1) rfl rfl)
    have h := h.snoc (.answer (i := 0) (r := .freshId) (Uuid.ofNat 2) rfl rfl)
    have h := h.snoc (.answer (i := 0) (r := .freshValue 64) (refreshValue (List.replicate 64 0)) rfl rfl)
    have h := h.snoc (.answer (i := 0) (r := .add _) (.ok ()) rfl ⟨rfl, rfl⟩)
    refine ⟨_, _, _, h, fun i x hx => ?_, rfl⟩
    simp only [List.nil_append, List.cons_append, List.mem_cons, List.not_mem_nil, or_false, reduceCtorEq, false_or,
      Event.answered.injEq] at hx
    rcases hx with ⟨-, rfl⟩ | ⟨-, rfl⟩ | ⟨-, rfl⟩ | ⟨-, rfl⟩ | ⟨-, rfl⟩
    · trivial
    · trivial
    · trivial
    · exact ⟨List.replicate 64 0, List.length_replicate, rfl⟩
    · trivial
  obtain ⟨store, calls⟩ := pool
  obtain rfl : calls = _ := hcalls
  have h := (h.snoc (.begin _ (.refresh g.access))).snoc
    (.answer (i := 1) (r := .find g.access) (store.get g.access) rfl ⟨rfl, rfl⟩)
  have hdrawn : Drawn (log ++ [.begun (.refresh g.access)] ++ [.answered 1 ⟨.find g.access, store.get g.access⟩]) := by
    intro i x hx
    simp only [List.mem_append, List.mem_singleton, reduceCtorEq, or_false, Event.answered.injEq] at hx
    rcases hx with hx | ⟨-, rfl⟩
    · exact hdrawn i x hx
    · trivial
  obtain ⟨hrefused, -, hvalidate, -⟩ := token_kinds_apart h hdrawn (i := 0) rfl (.issue _)
  rcases (hrefused 1 _ _ rfl (.inl rfl)).answered with ⟨hx, -⟩ | ⟨-, hc⟩
  · rw [history_append] at hx
    exact absurd (List.append_eq_nil_iff.1 hx).2 (by simp)
  · exact ⟨_, _, g, h, hdrawn, by rw [← hc]; rfl, hvalidate⟩

end Run

end Service

end Bearer
