import BargeIn.Replay.Channel
import BargeIn.Replay.Entry
import BargeIn.Session
import BargeIn.Unicode.WhiteSpace

/-!
# Replaying a session log

A log is replayed line by line through a session.  Every entry is a step of the session, and an
utterance gives a decision; lines that are blank or begin with `#`, once the white space around them
is dropped, are passed over and still counted.  The replay ends at the first line that is no entry
or no text, with what was reported so far.
-/

namespace BargeIn.Replay

open BargeIn.Json

/-- Why a replay ended before the end of its log: at a line that is no entry, told by its number,
its text without the white space around it, and the fault in it; or where the log cannot be read. -/
inductive Stop where
  | badLine (number : Nat) (text : String) (fault : Fault)
  | unreadable (fault : FileFault)
  deriving Repr, DecidableEq

/-- A line without the white space around it; nothing if the line is passed over. -/
def content? (line : List Char) : Option (List Char) :=
  match Unicode.trimWhiteSpace line with
  | [] => none
  | c :: rest => if c = '#' then none else some (c :: rest)

/-- The step that an entry asks of a session. -/
def Entry.step : Entry → Step
  | .speakingStarted => .speakingStarted
  | .speakingEnded => .speakingEnded
  | .heard u => .classify u

/-- Replays lines, of which the first has the given number; a line may be no text.  Gives the
reports of the entries in order, and the last session unless the replay stops early. -/
def replayLines (s : Session) (number : Nat) :
    List (Option (List Char)) → List Report × Except Stop Session
  | [] => ([], .ok s)
  | none :: _ => ([], .error (.unreadable .invalidData))
  | some line :: rest =>
    match content? line with
    | none => replayLines s (number + 1) rest
    | some text =>
      match Entry.ofText text with
      | .error fault => ([], .error (.badLine number (String.ofList text) fault))
      | .ok entry =>
        let (s, report) := s.step entry.step
        let (reports, last) := replayLines s (number + 1) rest
        (report :: reports, last)

/-- The lines of a log, which is cut at its line feeds.  Each may be a text or not. -/
def linesOf (content : ByteArray) : List (Option (List Char)) :=
  (content.data.toList.splitOn 10).map fun line =>
    (String.fromUTF8? line.toByteArray).map String.toList

structure Summary where
  events : UInt64
  interruptions : UInt64
  filler : UInt64
  registered : UInt64
  stops : UInt64
  deriving Repr, DecidableEq

/-- The number of jobs that were started to call the stop action. -/
def stopJobs (reports : List Report) : Nat :=
  (reports.flatMap Report.calls).countP Call.isStop

/-- The counters of the last session, beside the messages that its stop jobs have sent. -/
def summary (s : Session) (reports : List Report) : Summary :=
  let t := s.dispatcher.tally
  ⟨t.eventsClassified, t.validInterruptions, t.fillerIgnored, t.speechRegistered,
    .ofNat (Channel.messages (stopJobs reports))⟩

/-- The stop action of a replay, which does nothing but send a message. -/
def stopAction : Listener := ⟨"stop requested", "stop requested", .completes⟩

def start (settings : Settings) : Session :=
  ((Session.new settings .running).step (.setStopAction stopAction)).1

def replay (settings : Settings) (content : ByteArray) : List Report × Except Stop Session :=
  replayLines (start settings) 1 (linesOf content)

end BargeIn.Replay
