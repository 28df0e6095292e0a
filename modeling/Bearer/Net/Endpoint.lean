/-! Where a server listens, and what is reported where none does. -/

namespace Bearer

inductive Endpoint
  /-- A place in the file system, as the bytes of its path. -/
  | socket (path : List UInt8)
  | tcp (host : String) (port : Nat)
  deriving DecidableEq, Repr

/-- Why nothing answers. -/
inductive Refusal
  | noSocket
  | refused
  | unknownHost
  /-- A path has to be shorter than an address of a socket. -/
  | longPath
  /-- So has a name outside the file system, which begins with a zero byte. -/
  | longName
  | zeroInPath
  | noPath
  deriving DecidableEq, Repr

def Refusal.message : Refusal → String
  | noSocket => "No such file or directory (os error 2)"
  | refused => "Connection refused (os error 111)"
  | unknownHost => "failed to lookup address information: Temporary failure in name resolution"
  | longPath => "path must be shorter than SUN_LEN"
  | longName => "abstract socket name must be shorter than SUN_LEN"
  | zeroInPath => "paths must not contain interior null bytes"
  | noPath => "Invalid argument (os error 22)"

namespace Endpoint

def isLocal (host : String) : Bool := host ∈ ["localhost", "127.0.0.1", "::1", "0.0.0.0"]

/-- The bytes that an address of a socket has for a path and a zero byte behind it. -/
def room : Nat := 108

/-- Whether a path leads to a folder on every machine. -/
def isFolder (path : List UInt8) : Bool :=
  (path.splitOn 47).all fun name => name ∈ [[], [46], [46, 46]]

/-- The refusal on a machine where no server runs and that reaches no other machine. -/
def silence : Endpoint → Refusal
  | socket [] => .noPath
  | socket (0 :: name) => if room ≤ name.length then .longName else .refused
  | socket path =>
    if path.contains 0 then .zeroInPath
    else if room ≤ path.length then .longPath
    else if isFolder path then .refused
    else .noSocket
  | tcp host _ => if isLocal host then .refused else .unknownHost

end Endpoint

/-- Why a connection is refused, `none` where it is accepted. -/
abbrev Network := Endpoint → Option Refusal

/-- Nothing answers. -/
def Network.silent : Network := fun e => some e.silence

end Bearer
