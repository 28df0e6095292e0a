import Bearer.Startup.Service
/-! The command: takes the settings from its environment and its directory, brings the service up and writes
the log to standard output. Where no address can be listened on it ends there. -/

namespace Bearer.Command

open Settings

/-- The variables that are set. -/
def environment : IO Variables :=
  variableNames.foldlM (fun v name => do
    match ← IO.getEnv name with
    | some text => return v.insert name text
    | none => return v) Table.empty

def readText? (name : String) : IO (Option String) := do
  try
    return some (← IO.FS.readFile name)
  catch _ =>
    return none

/-- The settings files that are there. -/
def files : IO Files :=
  let ofEnvironments := [Environment.development, .staging, .production].flatMap fileNames
  (".env" :: ofEnvironments).foldlM (fun fs name => do
    match ← readText? name with
    | some text => return fs.insert name text
    | none => return fs) Table.empty

def write (format : LogFormat) (e : Log.Event) : IO Unit :=
  IO.println <| match format with
    | .json => e.toJson.write
    | _ => e.line

/-- The first cause, and under it those behind it. -/
def complain (chain : List String) : IO Unit := do
  IO.eprintln ("Error: " ++ chain.headD "")
  for cause in chain.drop 1 do
    IO.eprintln ("Caused by: " ++ cause)

def run : IO UInt32 := do
  let e := Startup.start Network.silent (← environment) (← files)
  for event in e.written do
    write e.format event
  match e.result with
  | .error stop => complain stop.chain
  | .ok ready => complain ["cannot listen on " ++ ready.address]
  return 1

end Bearer.Command

def main : IO UInt32 := Bearer.Command.run
