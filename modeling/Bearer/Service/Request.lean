import Bearer.Health
import Bearer.Time.Instant
import Bearer.Token
/-! What the service asks of its surroundings, and the kind of answer to each request. A `Call` is an
operation under way: it has its result, or waits for the answer to one request. Running a call is a matter
of who answers, so the same call can be run alone, against failing surroundings, or step by step between
the steps of others. -/

namespace Bearer

inductive Request
  /-- The time. -/
  | now
  /-- The stored refresh token with a value. -/
  | find (value : String)
  /-- To revoke the stored refresh token with a value, if it is not revoked yet. -/
  | tryRevoke (value : String)
  /-- To store a new refresh token. -/
  | add (token : Token)
  /-- A fresh identifier. -/
  | freshId
  /-- A fresh refresh value of so many random bytes. -/
  | freshValue (bytes : Nat)
  /-- The descriptor of a user. -/
  | resolve (user : Uuid)
  /-- The cached text under a key. -/
  | fetch (key : String)
  /-- To cache a text under a key. -/
  | remember (key text : String) (ttl : Ttl)
  /-- The state of the servers behind the service. -/
  | health
  /-- An identifier for an HTTP request that brought none. -/
  | freshRequestId
  deriving DecidableEq

abbrev Request.Answer : Request → Type
  | now => Instant
  | find _ => Except Fault Token
  | tryRevoke _ => Except Fault Bool
  | add _ => Except Fault Unit
  | freshId => Uuid
  | freshValue _ => String
  | resolve _ => Except Fault Descriptor
  | fetch _ => Except Fault (Option String)
  | remember .. => Except Fault Unit
  | health => HealthReport
  | freshRequestId => Uuid

inductive Call (α : Type)
  | done (a : α)
  | ask (r : Request) (next : r.Answer → Call α)

namespace Call

variable {α β γ : Type}

def bind (c : Call α) (f : α → Call β) : Call β :=
  match c with
  | done a => f a
  | ask r next => ask r fun answer => (next answer).bind f

instance : Monad Call where
  pure := done
  bind := bind

@[simp] theorem pure_eq (a : α) : (pure a : Call α) = done a := rfl
@[simp] theorem bind_eq (c : Call α) (f : α → Call β) : c >>= f = c.bind f := rfl
@[simp] theorem done_bind (a : α) (f : α → Call β) : (done a).bind f = f a := rfl
@[simp] theorem ask_bind (r : Request) (next : r.Answer → Call α) (f : α → Call β) :
    (ask r next).bind f = ask r fun answer => (next answer).bind f := rfl

@[simp] theorem bind_done (c : Call α) : c.bind done = c := by
  induction c with
  | done a => rfl
  | ask r next ih => simp [ih]

theorem bind_assoc (c : Call α) (f : α → Call β) (g : β → Call γ) :
    (c.bind f).bind g = c.bind fun a => (f a).bind g := by
  induction c with
  | done a => rfl
  | ask r next ih => simp [ih]

def request (r : Request) : Call r.Answer := ask r done

/-- Runs a call to its end in surroundings that answer every request and may change by it. -/
def run {σ : Type} (answer : (r : Request) → σ → r.Answer × σ) : Call α → σ → α × σ
  | done a, s => (a, s)
  | ask r next, s =>
    let (a, s) := answer r s
    run answer (next a) s

theorem run_bind {σ : Type} (answer : (r : Request) → σ → r.Answer × σ) (c : Call α)
    (f : α → Call β) (s : σ) :
    run answer (c.bind f) s = run answer (f (run answer c s).1) (run answer c s).2 := by
  induction c generalizing s with
  | done a => rfl
  | ask r next ih => simp [run, ih]

end Call

/-- A call that may fail. -/
abbrev Action := ExceptT Fault Call

namespace Action

def now : Action Instant := ExceptT.lift (Call.request .now)
def find (value : String) : Action Token := ExceptT.mk (Call.request (.find value))
def tryRevoke (value : String) : Action Bool := ExceptT.mk (Call.request (.tryRevoke value))
def add (token : Token) : Action Unit := ExceptT.mk (Call.request (.add token))
def freshId : Action Uuid := ExceptT.lift (Call.request .freshId)
def freshValue (bytes : Nat) : Action String := ExceptT.lift (Call.request (.freshValue bytes))
def resolve (user : Uuid) : Action Descriptor := ExceptT.mk (Call.request (.resolve user))
def fetch (key : String) : Action (Option String) := ExceptT.mk (Call.request (.fetch key))
def remember (key text : String) (ttl : Ttl) : Action Unit :=
  ExceptT.mk (Call.request (.remember key text ttl))

/-- A result that is there already. -/
def ofExcept {α : Type} (r : Except Fault α) : Action α := ExceptT.mk (Call.done r)

/-- The same action with its failures seen in another light. -/
def mapFault {α : Type} (f : Fault → Fault) (a : Action α) : Action α :=
  ExceptT.mk do
    match ← a.run with
    | .ok v => pure (.ok v)
    | .error e => pure (.error (f e))

end Action

end Bearer
