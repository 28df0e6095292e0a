import Bearer.Text.Percent
import Bearer.Text.Split
/-! The path of a request target: what stands before the query and the fragment, and behind the scheme and
the server if the target names them. Characters that are written as percent signs and two digits are put in,
but an escaped slash stays as it is, for it separates nothing. -/

namespace Bearer.Http.Target

def slash : UInt8 := 47

/-- What follows the scheme and the server. -/
def onServer (cs : List Char) : List Char :=
  if cs.head? = some '/' then cs
  else
    match Text.splitFirst? "://".toList cs with
    | some (_, rest) => rest.dropWhile fun c => c ≠ '/' ∧ c ≠ '?' ∧ c ≠ '#'
    | none => cs

/-- The path that a target names, `none` if it is no text. -/
def path? (target : String) : Option String :=
  Utf8.text? (Percent.unescape (· == slash)
    (Utf8.encode ((onServer target.toList).takeWhile fun c => c ≠ '?' ∧ c ≠ '#')))

end Bearer.Http.Target
