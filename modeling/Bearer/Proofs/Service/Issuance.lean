import Bearer.Proofs.Call.Alone
import Bearer.Proofs.Signing.Stated
/-! What an issue comes to and what it leaves in the store. There is nothing to be undone when it fails, for the one
write is its last step: a pair that cannot be made is never stored, and a token is not stored over another. -/

namespace Bearer

open Signing

namespace Policy

/-- Both tokens of a pair that is made at a time would end within the calendar. -/
def HasEnds (p : Policy) (now : Instant) : Prop := ∀ ttl ∈ [p.accessTtl, p.refreshTtl], now.add? ttl ≠ none

/-- What an issue comes to, and the store behind it, with the value drawn for the refresh token. -/
inductive Issued (p : Policy) (s : RefreshStore) (user : Uuid) (now : Instant) (drawn : String) :
    Except Fault TokenPair → RefreshStore → Prop
  | overflowed (ttl : Duration) : ttl ∈ [p.accessTtl, p.refreshTtl] → now.add? ttl = none →
      Issued p s user now drawn
        (.error (.internal ("Token expiry overflows the calendar: " ++ now.text ++ " + " ++ ttl.text))) s
  | collided : p.HasEnds now → s.get? drawn ≠ none →
      Issued p s user now drawn (.error (.repository "Refresh token value already stored")) s
  | stored (pair : TokenPair) : p.HasEnds now → s.get? drawn = none → p.Minted user now drawn pair →
      Issued p s user now drawn (.ok pair) (s.add pair.refresh).2

variable {p : Policy} {user : Uuid} {now : Instant}

/-- An issue that has the store to itself comes to one of these. -/
theorem issued_alone (hp : p.check = .ok ()) (others : (r : Request) → r.Answer) (s : RefreshStore) (user : Uuid)
    (now : Instant) (d : Draws) :
    ∃ r s', (p.issue user).run.alone now others d s = (r, s') ∧ p.Issued s user now (d.values 0) r s' := by
  cases haccess : now.add? p.accessTtl with
  | none =>
    refine ⟨_, _, alone_issue_of_no_access (expiry_of_overflow haccess), ?_⟩
    exact .overflowed p.accessTtl (by simp) haccess
  | some accessEnd =>
    have ha := expiry_of_add? haccess
    cases hrefresh : now.add? p.refreshTtl with
    | none =>
      refine ⟨_, _, alone_issue_of_no_refresh hp ha (expiry_of_overflow hrefresh), ?_⟩
      exact .overflowed p.refreshTtl (by simp) hrefresh
    | some refreshEnd =>
      have hends : p.HasEnds now := by simp [HasEnds, haccess, hrefresh]
      obtain ⟨pair, hpair, hissue⟩ := alone_issue hp ha (expiry_of_add? hrefresh)
      refine ⟨_, _, hissue, ?_⟩
      -- the pair is there, and whether it is handed out is up to the store
      cases hdrawn : s.get? pair.refresh.value with
      | some old =>
        rw [RefreshStore.add_of_stored _ _ old hdrawn]
        refine .collided hends ?_
        rw [← hpair.value, hdrawn]
        simp
      | none =>
        rw [RefreshStore.add_fst_eq_ok.2 hdrawn]
        exact .stored pair hends (hpair.value ▸ hdrawn) hpair

/-- The payload of an issued token, member by member. -/
theorem Minted.stated {value : String} {pair : TokenPair} (h : p.Minted user now value pair) :
    stated? pair.access.value = some (.obj [("sub", .str user.text), ("iss", .str p.issuer),
      ("iat", .ofInt now.seconds), ("exp", .ofInt pair.access.expiresAt.seconds),
      ("jti", .str pair.access.id.text)]) := by
  rw [stated?_of_sign h.signed]
  rfl

/-- Of a policy in order, for any user, store, reading of the clock and draws. An issue that succeeds gives a pair for
this user, made at that time, whose tokens end when the policy says; the payload of its access token can be read off it
and states the user, the issuer, both times in whole seconds and the identifier; its refresh token is all that is new in
the store, under a value that was free. An issue that fails leaves the store as it is. It succeeds just when both ends
are in the calendar and the value that is drawn is free. -/
theorem issuance_outcome (hp : p.check = .ok ()) (others : (r : Request) → r.Answer) (s : RefreshStore) (user : Uuid)
    (now : Instant) (d : Draws) :
    ∃ r s', (p.issue user).run.alone now others d s = (r, s') ∧
      (∀ pair, r = .ok pair →
        p.PairFor user now (d.values 0) pair ∧
        stated? pair.access.value = some (.obj [("sub", .str user.text), ("iss", .str p.issuer),
          ("iat", .ofInt now.seconds), ("exp", .ofInt pair.access.expiresAt.seconds),
          ("jti", .str pair.access.id.text)]) ∧
        s.get? pair.refresh.value = none ∧
        ∀ v, s'.get? v = if v = pair.refresh.value then some pair.refresh else s.get? v) ∧
      (∀ f, r = .error f → s' = s) ∧
      ((∃ pair, r = .ok pair) ↔ p.HasEnds now ∧ s.get? (d.values 0) = none) := by
  obtain ⟨r, s', hrun, hissued⟩ := issued_alone hp others s user now d
  refine ⟨r, s', hrun, ?_⟩
  cases hissued with
  | overflowed ttl hmem hadd =>
    have hends : ¬p.HasEnds now := fun h => h ttl hmem hadd
    simp [hends]
  | collided hends hdrawn => simp [hdrawn]
  | stored pair hends hdrawn hpair =>
    have hfree : s.get? pair.refresh.value = none := hpair.value ▸ hdrawn
    refine ⟨?_, nofun, iff_of_true ⟨pair, rfl⟩ ⟨hends, hdrawn⟩⟩
    rintro _ ⟨⟩
    exact ⟨hpair.toPairFor, hpair.stated, hfree, fun v => RefreshStore.get?_add s pair.refresh v hfree⟩

/-- One and a half seconds before the epoch the times in the token are rounded down, away from zero. -/
theorem issuance_outcome_before_epoch : ∃ (now : Instant) (d : Draws), now.nanos = -1500000000 ∧ d.values 0 = "r" ∧
    ∀ others, ∃ pair s', (development.issue (Uuid.ofNat 7)).run.alone now others d .empty = (.ok pair, s') ∧
      pair.access.expiresAt.nanos = 898500000000 ∧
      stated? pair.access.value = some (.obj [("sub", .str (Uuid.ofNat 7).text), ("iss", .str "tokenkeep"),
        ("iat", .ofInt (-2)), ("exp", .ofInt 898), ("jti", .str pair.access.id.text)]) ∧
      s'.get? "r" = some pair.refresh := by
  let now : Instant := ⟨-1500000000, by omega, by omega⟩
  let d : Draws := ⟨Uuid.ofNat, fun _ => "r"⟩
  have hends : development.HasEnds now := by unfold HasEnds; decide
  refine ⟨now, d, rfl, rfl, fun others => ?_⟩
  obtain ⟨r, s', hrun, hissued, -, hsucceeds⟩ :=
    issuance_outcome (p := development) rfl others .empty (Uuid.ofNat 7) now d
  obtain ⟨pair, rfl⟩ := hsucceeds.2 ⟨hends, rfl⟩
  obtain ⟨hpair, hstated, -, hstored⟩ := hissued pair rfl
  have hexp : pair.access.expiresAt.nanos = 898500000000 := Instant.add?_eq_some.1 hpair.ends.1
  rw [show pair.access.expiresAt.seconds = 898 by rw [Instant.seconds, hexp]; rfl] at hstated
  exact ⟨pair, s', hrun, hexp, hstated, (hstored "r").trans (if_pos hpair.value.symm)⟩

end Policy

end Bearer
