import Bearer.Store.Table
import Bearer.Token
/-! The refresh tokens that were ever issued, under their values. A token is added once, never removed,
and revoked at most once: `tryRevoke` tells its one caller who made the change. -/

namespace Bearer

structure RefreshStore where
  tokens : Table String Token

namespace RefreshStore

def empty : RefreshStore := ⟨Table.empty⟩

instance : Inhabited RefreshStore := ⟨empty⟩

def size (s : RefreshStore) : Nat := s.tokens.size

def get? (s : RefreshStore) (value : String) : Option Token := s.tokens.get? value

def get (s : RefreshStore) (value : String) : Except Fault Token :=
  match s.get? value with
  | some t => .ok t
  | none => .error (.notFound "refresh token")

def add (s : RefreshStore) (t : Token) : Except Fault Unit × RefreshStore :=
  match s.get? t.value with
  | some _ => (.error (.repository "Refresh token value already stored"), s)
  | none => (.ok (), ⟨s.tokens.insert t.value t⟩)

/-- Revokes a stored token that is not revoked yet, and says whether it did. -/
def tryRevoke (s : RefreshStore) (value : String) : Bool × RefreshStore :=
  match s.get? value with
  | some t => if t.revoked then (false, s) else (true, ⟨s.tokens.insert value t.revoke⟩)
  | none => (false, s)

theorem get?_add (s : RefreshStore) (t : Token) (v : String) (h : s.get? t.value = none) :
    (s.add t).2.get? v = if v = t.value then some t else s.get? v := by
  simp only [add, h]
  exact Table.get?_insert _ _ _ _

theorem add_of_stored (s : RefreshStore) (t old : Token) (h : s.get? t.value = some old) :
    s.add t = (.error (.repository "Refresh token value already stored"), s) := by
  simp [add, h]

theorem get?_tryRevoke (s : RefreshStore) (value v : String) :
    (s.tryRevoke value).2.get? v
      = if v = value then (s.get? v).map Token.revoke else s.get? v := by
  unfold tryRevoke
  cases h : s.get? value with
  | none =>
    by_cases hv : v = value
    · simp [hv, h]
    · simp [hv]
  | some t =>
    by_cases hr : t.revoked
    · by_cases hv : v = value
      · have ht : t.revoke = t := by simp [Token.revoke, ← hr]
        simp [hr, hv, h, ht]
      · simp [hr, hv]
    · simp only [hr]
      show Table.get? (s.tokens.insert value t.revoke) v = _
      rw [Table.get?_insert]
      by_cases hv : v = value
      · simp [hv, h]
      · simp only [if_neg hv]
        rfl

end RefreshStore

end Bearer
