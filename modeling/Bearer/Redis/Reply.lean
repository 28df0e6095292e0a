import Bearer.Store.Table
import Bearer.Text.Number
/-! What a Redis server answers, and which text, number or failure a client takes from it. -/

namespace Bearer.Redis

inductive Reply
  | nil
  | int (n : Int)
  | bulk (s : String)
  | status (s : String)
  | error (s : String)
  deriving DecidableEq, Repr

/-- Why a command failed. -/
inductive Trouble
  /-- The connection is gone. -/
  | io
  /-- The client could not send. -/
  | client
  /-- The server is still reading its data. -/
  | loading (detail : String)
  /-- The server asks to try again. -/
  | tryAgain (detail : String)
  /-- Any other error reply; the text behind its code. -/
  | refused (detail : String)
  /-- A reply of a type that the command cannot have, or that is no reply. -/
  | wrongType
  deriving DecidableEq, Repr

/-- Whether the same command may succeed a little later. -/
def Trouble.isPassing : Trouble → Bool
  | io | client | loading _ | tryAgain _ => true
  | refused _ | wrongType => false

/-- What an error reply says behind its code. -/
def Trouble.detail? : Trouble → Option String
  | loading d | tryAgain d | refused d => some d
  | io | client | wrongType => none

/-- The trouble that an error reply reports: its first word is the code. -/
def Trouble.ofText (s : String) : Trouble :=
  let cs := s.toList
  let code := cs.takeWhile (· ≠ ' ')
  let detail := String.ofList ((cs.dropWhile (· ≠ ' ')).drop 1)
  if code = "LOADING".toList then loading detail
  else if code = "TRYAGAIN".toList then tryAgain detail
  else refused detail

def Reply.ok : Reply := .status "OK"

namespace Reply

/-- Whether a client can read the reply: its numbers have 64 bits. -/
def isReadable : Reply → Bool
  | int n => -9223372036854775808 ≤ n && n ≤ 9223372036854775807
  | _ => true

/-- A reply that is no error. -/
def accept : Reply → Except Trouble Reply
  | error s => .error (Trouble.ofText s)
  | r => .ok r

/-- Text, or nothing. -/
def text? : Reply → Except Trouble (Option String)
  | nil => .ok none
  | bulk s => .ok (some s)
  | status s => .ok (some s)
  | int _ => .error .wrongType
  | error s => .error (Trouble.ofText s)

def text (r : Reply) : Except Trouble String :=
  match r.text? with
  | .ok (some s) => .ok s
  | .ok none => .error .wrongType
  | .error e => .error e

/-- A count. Of a number only the low 32 bits are kept. -/
def count : Reply → Except Trouble Nat
  | int n => .ok (n % 4294967296).toNat
  | bulk s => ofText s
  | status s => ofText s
  | nil => .error .wrongType
  | error s => .error (Trouble.ofText s)
where
  ofText (s : String) : Except Trouble Nat :=
    match Text.unsigned? 32 s with
    | some n => .ok n
    | none => .error .wrongType

end Reply

end Bearer.Redis
