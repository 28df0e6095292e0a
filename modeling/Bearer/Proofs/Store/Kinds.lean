import Bearer.Mysql.Store
import Bearer.Proofs.Store.Growth
/-! The kinds of tokens that a store of refresh tokens takes. The store in a database refuses what is no refresh token
before it asks for anything. The one in memory does not look at the kind: under each value it keeps the token that was
brought for it first, so it holds nothing but refresh tokens only if it is brought nothing else. -/

namespace Bearer

theorem TokenKind.ne_refresh {k : TokenKind} : k ≠ .refresh ↔ k = .access := by
  cases k <;> simp

namespace Mysql.Server

variable {server : Server} {t : Token}

/-- No server is asked whether to take a token of the wrong kind. -/
theorem add_of_access (h : t.kind = .access) :
    server.add t = .error (.validation "Cannot store access token as a refresh token") := by
  rw [add, if_pos (TokenKind.ne_refresh.2 h), h]
  rfl

theorem add_of_refresh (h : t.kind = .refresh) :
    server.add t = match server.insert (digest t.value) (Row.ofToken t) with
      | .done () => .ok ()
      | .duplicate => .error (.repository "Refresh token value already stored")
      | .failed => .error (.repository "Failed to store refresh token") := by
  cases hinsert : server.insert (digest t.value) (Row.ofToken t) <;> simp [add, h, hinsert]

theorem add_eq_validation {m : String} :
    server.add t = .error (.validation m) ↔
      t.kind = .access ∧ m = "Cannot store access token as a refresh token" := by
  cases hkind : t.kind with
  | access =>
    rw [add_of_access hkind]
    simp [eq_comm]
  | refresh =>
    rw [add_of_refresh hkind]
    split <;> simp

end Mysql.Server

namespace RefreshStore

variable {s : RefreshStore} {t : Token}

/-- A token is taken or refused by its value alone, and a refusal changes nothing. -/
theorem add_cases (s : RefreshStore) (t : Token) :
    (s.get? t.value = none ∧ (s.add t).1 = .ok ()) ∨
      ((s.get? t.value).isSome = true ∧
        s.add t = (.error (.repository "Refresh token value already stored"), s)) := by
  cases h : s.get? t.value with
  | none => exact Or.inl ⟨rfl, add_fst_eq_ok.2 h⟩
  | some old => exact Or.inr ⟨rfl, add_of_stored s t old h⟩

/-- A server that has a row for a value just when the store has a token is of the store's opinion on refresh tokens,
and on no others. -/
theorem add_alike_iff {server : Mysql.Server}
    (h : server.insert (Mysql.digest t.value) (.ofToken t) =
      if (s.get? t.value).isSome then .duplicate else .done ()) :
    server.add t = (s.add t).1 ↔ t.kind = .refresh := by
  cases hkind : t.kind with
  | access =>
    rw [Mysql.Server.add_of_access hkind]
    rcases add_cases s t with ⟨-, hadd⟩ | ⟨-, hadd⟩ <;> simp [hadd]
  | refresh =>
    rw [Mysql.Server.add_of_refresh hkind, h]
    rcases add_cases s t with ⟨hnew, hadd⟩ | ⟨hold, hadd⟩
    · simp [hnew, hadd]
    · simp [hold, hadd]

/-- What a caller can do to a store. -/
inductive Change
  | add (t : Token)
  | tryRevoke (value : String)

/-- The token that a change brings for a value. -/
def Change.brought? (v : String) : Change → Option Token
  | add t => if t.value = v then some t else none
  | tryRevoke _ => none

/-- The token that is brought for a value first. -/
def brought? (v : String) (changes : List Change) : Option Token := changes.findSome? (Change.brought? v)

def after (s : RefreshStore) : Change → RefreshStore
  | .add t => (s.add t).2
  | .tryRevoke v => (s.tryRevoke v).2

/-- The store after changes in this order, whether or not they were refused. -/
def afterAll (s : RefreshStore) (changes : List Change) : RefreshStore := changes.foldl after s

theorem get?_after (s : RefreshStore) (c : Change) (v : String) :
    ((s.after c).get? v).map Token.revoke = ((s.get? v).or (c.brought? v)).map Token.revoke := by
  cases c with
  | add t =>
    simp only [after, Change.brought?]
    by_cases hv : t.value = v
    · subst hv
      cases h : s.get? t.value with
      | none => simp [get?_add s t _ h]
      | some old => simp [add_of_stored s t old h, h]
    · rw [if_neg hv, Option.or_none]
      cases h : s.get? t.value with
      | none => rw [get?_add s t v h, if_neg (Ne.symm hv)]
      | some old => rw [add_of_stored s t old h]
  | tryRevoke w =>
    simp only [after, Change.brought?, Option.or_none]
    rw [get?_tryRevoke]
    split
    · rw [Option.map_map]
      rfl
    · rfl

/-- Under a value there is, revoked or not, the token that was there, or else the one that was brought for it
first. -/
theorem get?_afterAll (s : RefreshStore) (changes : List Change) (v : String) :
    ((s.afterAll changes).get? v).map Token.revoke = ((s.get? v).or (brought? v changes)).map Token.revoke := by
  induction changes generalizing s with
  | nil => simp [afterAll, brought?]
  | cons c changes ih =>
    have hbrought : brought? v (c :: changes) = (c.brought? v).or (brought? v changes) := by
      rw [brought?, List.findSome?_cons]
      cases c.brought? v <;> rfl
    calc ((s.afterAll (c :: changes)).get? v).map Token.revoke
        = (((s.after c).get? v).or (brought? v changes)).map Token.revoke := ih (s.after c)
      _ = (((s.get? v).or (c.brought? v)).or (brought? v changes)).map Token.revoke := by
        rw [Option.map_or, get?_after, ← Option.map_or]
      _ = ((s.get? v).or (brought? v (c :: changes))).map Token.revoke := by
        rw [hbrought, Option.or_assoc]

/-- All tokens in the store are of one kind. -/
def HoldsOnly (s : RefreshStore) (kind : TokenKind) : Prop := ∀ v t, s.get? v = some t → t.kind = kind

/-- Revocation leaves the kind of a token as it is. -/
theorem kind_afterAll (s : RefreshStore) (changes : List Change) (v : String) :
    ((s.afterAll changes).get? v).map Token.kind = ((s.get? v).or (brought? v changes)).map Token.kind := by
  have h := congrArg (Option.map Token.kind) (get?_afterAll s changes v)
  rw [Option.map_map, Option.map_map] at h
  exact h

theorem holdsOnly_afterAll_iff {changes : List Change} {kind : TokenKind} :
    (s.afterAll changes).HoldsOnly kind ↔
      s.HoldsOnly kind ∧ ∀ v t, s.get? v = none → brought? v changes = some t → t.kind = kind := by
  have hkind (o : Option Token) :
      (∀ t, o = some t → t.kind = kind) ↔ ∀ k, o.map Token.kind = some k → k = kind := by
    cases o <;> simp
  unfold HoldsOnly
  rw [← forall_and]
  refine forall_congr' fun v => ?_
  rw [hkind, kind_afterAll, ← hkind]
  cases s.get? v <;> simp

/-- Who refuses a token for its kind, and what comes of it. The database refuses every access token, whatever the
server behind it would say, and refuses nothing else as invalid. The store in memory takes any token whose value is
new to it; apart from that it agrees with a server that has the same values. So after any changes, begun with any
contents, it holds refresh tokens alone exactly if it did so before and every token that was the first to be brought
for a new value was one. -/
theorem refusal_by_kind (server : Mysql.Server) (s : RefreshStore) :
    (∀ t m, server.add t = .error (.validation m) ↔
        t.kind = .access ∧ m = "Cannot store access token as a refresh token") ∧
      (∀ t, (s.get? t.value = none ∧ (s.add t).1 = .ok ()) ∨
        ((s.get? t.value).isSome = true ∧
          s.add t = (.error (.repository "Refresh token value already stored"), s))) ∧
      (∀ t, server.insert (Mysql.digest t.value) (.ofToken t) =
          (if (s.get? t.value).isSome then .duplicate else .done ()) →
        (server.add t = (s.add t).1 ↔ t.kind = .refresh)) ∧
      ∀ changes, (s.afterAll changes).HoldsOnly .refresh ↔
        s.HoldsOnly .refresh ∧ ∀ v t, s.get? v = none → brought? v changes = some t → t.kind = .refresh :=
  ⟨fun _ _ => Mysql.Server.add_eq_validation, add_cases s, fun _ => add_alike_iff,
    fun _ => holdsOnly_afterAll_iff⟩

/-- An access token that the database would have room for, and the store in memory keeps. -/
theorem refusal_by_kind_of_access : ∃ (server : Mysql.Server) (t : Token),
    server.insert (Mysql.digest t.value) (.ofToken t) = .done () ∧
      server.add t = .error (.validation "Cannot store access token as a refresh token") ∧
      (RefreshStore.empty.add t).1 = .ok () ∧ server.add t ≠ (RefreshStore.empty.add t).1 ∧
      ¬(RefreshStore.empty.afterAll [.add t]).HoldsOnly .refresh := by
  let server : Mysql.Server := ⟨fun _ => .done none, fun _ _ => .done (), fun _ => .done 0, fun _ => .done none⟩
  let t : Token := ⟨Uuid.ofNat 1, Uuid.ofNat 7, "a", .access, .epoch, ⟨1, by omega, by omega⟩, false⟩
  obtain ⟨hrefuses, htakes, halike, hholds⟩ := refusal_by_kind server RefreshStore.empty
  have hrefused : server.add t = .error (.validation "Cannot store access token as a refresh token") :=
    (hrefuses t _).2 ⟨rfl, rfl⟩
  have hdiffer : server.add t ≠ (RefreshStore.empty.add t).1 := mt (halike t rfl).1 (by decide)
  have htaken : (RefreshStore.empty.add t).1 = .ok () := by
    rcases htakes t with ⟨-, hadd⟩ | ⟨hold, -⟩
    · exact hadd
    · cases hold
  refine ⟨server, t, rfl, hrefused, htaken, hdiffer, fun hrefresh => ?_⟩
  cases ((hholds [.add t]).1 hrefresh).2 "a" t rfl rfl

end RefreshStore

end Bearer
