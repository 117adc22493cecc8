import BargeIn.Replay.Log
import BargeIn.Settings.File

/-!
# The command line of the replay

The tool takes the settings from a file or the standard ones, applies the overrides of the
environment, replays a log from a file or from standard input, and prints every decision as a line
of JSON.  Arguments are looked at first, then the settings, the overrides and the log, and the
first failure ends the run.
-/

namespace BargeIn.Replay

/-- Where settings and log come from; what is not named is standard. -/
structure Arguments where
  settings : Option String
  input : Option String
  deriving Repr, DecidableEq

inductive Request where
  | help
  | replay (args : Arguments)
  deriving Repr, DecidableEq

/-- Why a run failed. -/
inductive RunFailure where
  | missingValue (option : String)
  | unknownArgument (arg : String)
  | loading (path : String) (cause : Failure)
  | overriding (cause : Failure)
  | opening (path : String) (cause : FileFault)
  | stopped (why : Stop)
  deriving Repr, DecidableEq

/-- The words in which the reader of JSON tells of a fault that it met in a file or in a line.  They
name what was expected and where, and are left to whoever reads. -/
structure Wording where
  ofFile : (path : String) → Json.Fault → String
  ofLine : (text : String) → Json.Fault → String

namespace RunFailure

/-- The failure in words, without the words of a cause that lies outside. -/
def headline : RunFailure → String
  | .missingValue option => "missing value for " ++ option
  | .unknownArgument arg => "unknown argument: " ++ arg
  | .loading path cause => joinChain ["loading " ++ path, cause.headline]
  | .overriding cause => cause.headline
  | .opening path _ => "opening " ++ path
  | .stopped (.badLine number ..) => "line " ++ Nat.repr number ++ ": invalid replay entry"
  | .stopped (.unreadable fault) => fault.message

/-- The failure and its causes, each in words. -/
def causes (words : Wording) : RunFailure → List String
  | .loading path cause => ("loading " ++ path) :: cause.causes (words.ofFile path)
  | .overriding cause => [cause.fullMessage]
  | .opening path cause => ["opening " ++ path, cause.message]
  | .stopped (.badLine number text fault) =>
    [headline (.stopped (.badLine number text fault)), words.ofLine text fault]
  | f => [f.headline]

def message (words : Wording) (f : RunFailure) : String := joinChain (f.causes words)

end RunFailure

def usage : List String :=
  ["Usage: cargo run -p interject-core --bin replay -- \\",
   "  [--config <config.json>] [--input <session.jsonl>]"]

/-- Reads the arguments from left to right; of an option given twice the last value counts. -/
def requestFrom (args : Arguments) : List String → Except RunFailure Request
  | [] => .ok (.replay args)
  | "--config" :: rest =>
    match rest with
    | [] => .error (.missingValue "--config")
    | path :: rest => requestFrom { args with settings := some path } rest
  | "--input" :: rest =>
    match rest with
    | [] => .error (.missingValue "--input")
    | path :: rest => requestFrom { args with input := some path } rest
  | arg :: _ =>
    if arg = "--help" ∨ arg = "-h" then .ok .help else .error (.unknownArgument arg)

/-- What a list of arguments asks for. -/
def request (args : List String) : Except RunFailure Request := requestFrom ⟨none, none⟩ args

/-- What a run can see: files, standard input and the environment. -/
structure Surroundings where
  look : String → Except FileFault ByteArray
  standardInput : ByteArray
  lookup : String → Option String

/-- How a run ended. -/
inductive Ending where
  | helped
  | finished (summary : Summary)
  | failed (why : RunFailure)
  deriving Repr, DecidableEq

/-- What a run printed, line by line, and how it ended. -/
structure Run where
  printed : List String
  ending : Ending
  deriving Repr, DecidableEq

def Run.exitCode (r : Run) : UInt32 :=
  match r.ending with
  | .failed _ => 1
  | _ => 0

def effectiveSettings (w : Surroundings) (args : Arguments) : Except RunFailure Settings := do
  let base ← match args.settings with
    | none => .ok Settings.standard
    | some path =>
      match Settings.load path (w.look path) with
      | .ok s => .ok s
      | .error cause => .error (.loading path cause)
  match base.override w.lookup with
  | (s, none) => .ok s
  | (_, some cause) => .error (.overriding cause)

/-- The content of the log, or the fault met when reading it after it could be opened. -/
def logContent (w : Surroundings) (args : Arguments) :
    Except RunFailure (Except FileFault ByteArray) :=
  match args.input with
  | none => .ok (.ok w.standardInput)
  | some path =>
    match w.look path with
    | .ok content => .ok (.ok content)
    | .error .isADirectory => .ok (.error .isADirectory)
    | .error cause => .error (.opening path cause)

def runLog (settings : Settings) : Except FileFault ByteArray → Run
  | .error fault => ⟨[], .failed (.stopped (.unreadable fault))⟩
  | .ok content =>
    let (reports, last) := replay settings content
    { printed := (reports.filterMap Report.decision).map Decision.line
      ending := match last with
        | .ok s => .finished (summary s reports)
        | .error why => .failed (.stopped why) }

def run (w : Surroundings) (args : List String) : Run :=
  match request args with
  | .error why => ⟨[], .failed why⟩
  | .ok .help => ⟨usage, .helped⟩
  | .ok (.replay args) =>
    match effectiveSettings w args with
    | .error why => ⟨[], .failed why⟩
    | .ok settings =>
      match logContent w args with
      | .error why => ⟨[], .failed why⟩
      | .ok content => runLog settings content

end BargeIn.Replay
