import BargeIn.Replay.CommandLine

/-!
# The replay tool

Fetches what a run can see, leaves the run itself to `BargeIn.Replay.run`, and prints its lines and
its ending.
-/

namespace BargeIn.Replay

/-- The fault that a failed access to a file amounts to. -/
def fileFaultOf (e : IO.Error) : FileFault :=
  match e with
  | .noFileOrDirectory .. => .notFound
  | .inappropriateType _ code _ => if code = 20 then .notADirectory else .isADirectory
  | .invalidArgument _ code _ => if code = 36 then .nameTooLong else .told (toString e)
  | e => .told (toString e)

def fetch (path : String) : IO (Except FileFault ByteArray) := do
  try
    return .ok (← IO.FS.readBinFile path)
  catch e =>
    return .error (fileFaultOf e)

def summaryLine (s : Summary) : String :=
  "replay finished events=" ++ toString s.events ++ " interruptions=" ++ toString s.interruptions ++
    " filler=" ++ toString s.filler ++ " registered=" ++ toString s.registered ++
    " stops=" ++ toString s.stops

/-- A fault in a few words, wherever it was met. -/
def wording : Wording :=
  let told : Json.Fault → String
    | .malformed => "the text is malformed"
    | .truncated => "the text ends too early"
    | .mismatched => "a value is of the wrong kind"
  ⟨fun _ => told, fun _ => told⟩

/-- The files that the arguments name, with what was found there. -/
def fetchNamed (args : List String) : IO (List (String × Except FileFault ByteArray)) :=
  match request args with
  | .ok (.replay named) =>
    (named.settings.toList ++ named.input.toList).mapM fun path => return (path, ← fetch path)
  | _ => return []

end BargeIn.Replay

open BargeIn BargeIn.Replay in
def main (args : List String) : IO UInt32 := do
  let found ← fetchNamed args
  let keys := [Settings.fillersVariable, Settings.stopsVariable, Settings.floorVariable]
  let values ← keys.mapM fun key => return (key, ← IO.getEnv key)
  let needsInput := match request args with
    | .ok (.replay named) => named.input.isNone
    | _ => false
  let standardInput ← if needsInput then (← IO.getStdin).readBinToEnd else pure ByteArray.empty
  let surroundings : Surroundings :=
    { look := fun path => (found.lookup path).getD (.error .notFound)
      standardInput := standardInput
      lookup := fun key => (values.lookup key).join }
  let run := Replay.run surroundings args
  for line in run.printed do
    IO.println line
  match run.ending with
  | .helped => pure ()
  | .finished summary => IO.eprintln (summaryLine summary)
  | .failed why => IO.eprintln ("replay failed: " ++ why.message wording)
  return run.exitCode
