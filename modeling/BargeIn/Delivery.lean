import BargeIn.Decision
import BargeIn.Failure

/-!
# Delivery of decisions

Listeners are registered for one outcome each, and at most one stop action for interruptions.  A
decision makes a job of every listener of its outcome, and an interruption one more of the stop
action.  A job runs under guard: that its callee gives up or crashes is logged and counted, and
neither the other jobs nor whoever decided notice anything.

Jobs are handed to an executor.  One that has been shut down drops them: nobody is called, and
nothing is logged or counted.
-/

namespace BargeIn

/-! ## Listeners -/

/-- What a crash leaves behind: a text, or a value that is none. -/
inductive Payload where
  | text (message : String)
  | other
  deriving Repr, DecidableEq

/-- How a call ends.  An error is told from its outermost context to its root cause. -/
inductive Response where
  | completed
  | failed (chain : List String)
  | crashed (payload : Payload)
  deriving Repr, DecidableEq

/-- What a listener makes of a decision.  A stop action is called without one. -/
def Behavior := Option Decision → Response

namespace Behavior

def completes : Behavior := fun _ => .completed

def fails (chain : List String) : Behavior := fun _ => .failed chain

def crashes (payload : Payload) : Behavior := fun _ => .crashed payload

end Behavior

/-- A listener or stop action; its name appears in the log. -/
structure Listener where
  id : String
  name : String
  behavior : Behavior

/-- The registered listeners, in the order of their registration, and the stop action. -/
structure Roster where
  onInterruption : List Listener
  onFiller : List Listener
  onSpeech : List Listener
  stopAction : Option Listener

namespace Roster

def empty : Roster := ⟨[], [], [], none⟩

def listeners (r : Roster) : Outcome → List Listener
  | .validInterruption => r.onInterruption
  | .fillerIgnored => r.onFiller
  | .speechRegistered => r.onSpeech

/-- The roster with other listeners for an outcome. -/
def setListeners (r : Roster) : Outcome → List Listener → Roster
  | .validInterruption, ls => { r with onInterruption := ls }
  | .fillerIgnored, ls => { r with onFiller := ls }
  | .speechRegistered, ls => { r with onSpeech := ls }

/-- Registers a listener for an outcome, behind those registered before. -/
def addListener (r : Roster) (o : Outcome) (l : Listener) : Roster :=
  r.setListeners o (r.listeners o ++ [l])

def clearListeners (r : Roster) (o : Outcome) : Roster := r.setListeners o []

@[simp] theorem listeners_setListeners (r : Roster) (o p : Outcome) (ls : List Listener) :
    (r.setListeners o ls).listeners p = if p = o then ls else r.listeners p := by
  cases o <;> cases p <;> rfl

end Roster

/-! ## Calls and the log -/

/-- A call of a listener with a decision, or of the stop action. -/
inductive Call where
  | listener (l : Listener) (d : Decision)
  | stop (l : Listener)

namespace Call

def callee : Call → Listener
  | .listener l _ => l
  | .stop l => l

def isStop : Call → Bool
  | .listener .. => false
  | .stop _ => true

/-- How the call ends. -/
def response : Call → Response
  | .listener l d => l.behavior (some d)
  | .stop l => l.behavior none

end Call

/-- A record of the log: of a call that came to nothing, or of a floor that is not finite. -/
inductive LogRecord where
  | listenerFailed (name : String) (chain : List String)
  | listenerCrashed (name : String) (payload : Payload)
  | floorIgnored
  deriving Repr, DecidableEq

inductive LogLevel where
  | warn
  | error
  deriving Repr, DecidableEq

namespace LogRecord

/-- A crash is an error, anything else a warning. -/
def level : LogRecord → LogLevel
  | .listenerCrashed .. => .error
  | _ => .warn

/-- What a crash left behind, in words. -/
def payloadText : Payload → String
  | .text message => message
  | .other => "<non-string panic payload>"

def message : LogRecord → String
  | .listenerFailed name chain => (Failure.listener name (joinChain chain)).message
  | .listenerCrashed _ payload => "listener panicked: " ++ payloadText payload
  | .floorIgnored => "ignoring non-finite confidence floor"

/-- The listener that a record of a crash names apart from its words. -/
def listener? : LogRecord → Option String
  | .listenerCrashed name _ => some name
  | _ => none

end LogRecord

/-- What is logged of a call: nothing if it completes. -/
def Call.record? (c : Call) : Option LogRecord :=
  match c.response with
  | .completed => none
  | .failed chain => some (.listenerFailed c.callee.name chain)
  | .crashed payload => some (.listenerCrashed c.callee.name payload)

/-! ## Counters -/

/-- Counters of what has been decided and called since the last reset. -/
structure Tally where
  eventsClassified : UInt64
  fillerIgnored : UInt64
  speechRegistered : UInt64
  validInterruptions : UInt64
  stopActionsInvoked : UInt64
  listenerFailures : UInt64
  deriving Repr, DecidableEq

namespace Tally

def zero : Tally := ⟨0, 0, 0, 0, 0, 0⟩

def countOutcome (t : Tally) : Outcome → Tally
  | .fillerIgnored =>
    { t with eventsClassified := t.eventsClassified + 1, fillerIgnored := t.fillerIgnored + 1 }
  | .speechRegistered =>
    { t with
      eventsClassified := t.eventsClassified + 1
      speechRegistered := t.speechRegistered + 1 }
  | .validInterruption =>
    { t with
      eventsClassified := t.eventsClassified + 1
      validInterruptions := t.validInterruptions + 1 }

def countStop (t : Tally) : Tally := { t with stopActionsInvoked := t.stopActionsInvoked + 1 }

def countFailure (t : Tally) : Tally := { t with listenerFailures := t.listenerFailures + 1 }

end Tally

/-! ## Jobs -/

/-- What jobs leave behind: the calls that were made, the log, and the counters. -/
structure Ledger where
  calls : List Call
  log : List LogRecord
  tally : Tally

namespace Ledger

/-- Enters a call that is made. -/
def addCall (w : Ledger) (c : Call) : Ledger := { w with calls := w.calls ++ [c] }

/-- Enters that a call came to nothing. -/
def addFailure (w : Ledger) (r : LogRecord) : Ledger :=
  { w with log := w.log ++ [r], tally := w.tally.countFailure }

/-- Catches whatever a call ends with. -/
def guarded (w : Ledger) (name : String) : Response → Ledger
  | .completed => w
  | .failed chain => w.addFailure (.listenerFailed name chain)
  | .crashed payload => w.addFailure (.listenerCrashed name payload)

end Ledger

/-- The job of a call.  A stop is counted when its job runs. -/
def Call.run (w : Ledger) : Call → Ledger
  | .listener l d => (w.addCall (.listener l d)).guarded l.name (l.behavior (some d))
  | .stop l =>
    let counted := { w with tally := w.tally.countStop }
    (counted.addCall (.stop l)).guarded l.name (l.behavior none)

/-- The calls that a decision makes jobs of. -/
def Roster.jobs (r : Roster) (d : Decision) : List Call :=
  (r.listeners d.outcome).map (Call.listener · d) ++
    if d.isInterruption then r.stopAction.toList.map Call.stop else []

/-- Where jobs run, or where they are dropped. -/
inductive Executor where
  | running
  | shutDown
  deriving Repr, DecidableEq

/-- Hands a job over. -/
def Executor.spawn (e : Executor) (w : Ledger) (job : Call) : Ledger :=
  match e with
  | .running => job.run w
  | .shutDown => w

/-! ## Dispatching -/

/-- Who is registered, what was counted, and where jobs go. -/
structure Dispatcher where
  roster : Roster
  tally : Tally
  executor : Executor

namespace Dispatcher

/-- A dispatcher with nobody registered and nothing counted. -/
def new (executor : Executor) : Dispatcher := ⟨.empty, .zero, executor⟩

def mapRoster (d : Dispatcher) (f : Roster → Roster) : Dispatcher :=
  { d with roster := f d.roster }

def countOutcome (d : Dispatcher) (o : Outcome) : Dispatcher :=
  { d with tally := d.tally.countOutcome o }

/-- Hands over the jobs of a decision, one after the other. -/
def deliver (d : Dispatcher) (decision : Decision) : Ledger :=
  (d.roster.jobs decision).foldl d.executor.spawn ⟨[], [], d.tally⟩

/-- Delivers a decision: the dispatcher that has counted the calls, and the calls. -/
def dispatch (d : Dispatcher) (decision : Decision) : Dispatcher × List Call :=
  let ledger := d.deliver decision
  ({ d with tally := ledger.tally }, ledger.calls)

def resetTally (d : Dispatcher) : Dispatcher := { d with tally := .zero }

end Dispatcher

end BargeIn
