import BargeIn.Delivery
import BargeIn.Settings

/-!
# Sessions

A session is a classifier in use: the policy by which it decides and the dispatcher that delivers
its decisions.  It lives by steps; a step gives the next session and a report of what was called,
logged and decided.  All calls of a step are over before the next step.

`Session.run` takes a list of steps and gives the session and the report after each of them.
-/

namespace BargeIn

/-- A classifier in use. -/
structure Session where
  policy : Policy
  dispatcher : Dispatcher

/-- What can be done with a classifier.  A floor that is not finite is refused, a stop action takes
the place of an earlier one, and `look` changes nothing. -/
inductive Step where
  | setFillers (texts : List String)
  | setStops (texts : List String)
  | setFloor (floor : Confidence)
  | configure (settings : Settings)
  | speakingStarted
  | speakingEnded
  | addListener (outcome : Outcome) (l : Listener)
  | clearListeners (outcome : Outcome)
  | setStopAction (l : Listener)
  | clearStopAction
  | classify (u : Utterance)
  | resetTally
  | look

/-- What happened in a step. -/
structure Report where
  calls : List Call
  log : List LogRecord
  decision : Option Decision

def Report.quiet : Report := ⟨[], [], none⟩

namespace Session

/-! ## Algorithm -/

/-- A classifier with normalized settings.  The agent starts out quiet. -/
def new (settings : Settings) (executor : Executor) : Session :=
  let s := settings.normalize
  { policy :=
      { speaking := false
        floor := s.floor
        fillers := .ofTexts s.fillers
        stops := .ofTexts s.stops }
    dispatcher := .new executor }

def mapPolicy (s : Session) (f : Policy → Policy) : Session := { s with policy := f s.policy }

def mapDispatcher (s : Session) (f : Dispatcher → Dispatcher) : Session :=
  { s with dispatcher := f s.dispatcher }

/-- The current settings: both vocabularies by their listings, and the floor. -/
def settings (s : Session) : Settings where
  fillers := s.policy.fillers.listing
  stops := s.policy.stops.listing
  floor := s.policy.floor

/-- The policy under new settings, which are normalized first. -/
def configured (settings : Settings) (p : Policy) : Policy :=
  let s := settings.normalize
  { p with fillers := .ofTexts s.fillers, stops := .ofTexts s.stops, floor := s.floor }

/-- Decides on an utterance, counts the outcome and delivers the decision. -/
def classify (s : Session) (u : Utterance) : Session × Report :=
  let decision := s.policy.decide u
  let counted := s.dispatcher.countOutcome decision.outcome
  let (dispatcher, calls) := counted.dispatch decision
  ({ s with dispatcher := dispatcher }, ⟨calls, (counted.deliver decision).log, some decision⟩)

def step (s : Session) : Step → Session × Report
  | .setFillers texts => (s.mapPolicy ({ · with fillers := .ofTexts texts }), .quiet)
  | .setStops texts => (s.mapPolicy ({ · with stops := .ofTexts texts }), .quiet)
  | .setFloor floor =>
    match Settings.normalizeFloor floor with
    | some floor => (s.mapPolicy ({ · with floor := floor }), .quiet)
    | none => (s, ⟨[], [.floorIgnored], none⟩)
  | .configure settings => (s.mapPolicy (configured settings), .quiet)
  | .speakingStarted => (s.mapPolicy ({ · with speaking := true }), .quiet)
  | .speakingEnded => (s.mapPolicy ({ · with speaking := false }), .quiet)
  | .addListener o l => (s.mapDispatcher (·.mapRoster (·.addListener o l)), .quiet)
  | .clearListeners o => (s.mapDispatcher (·.mapRoster (·.clearListeners o)), .quiet)
  | .setStopAction l =>
    (s.mapDispatcher (·.mapRoster ({ · with stopAction := some l })), .quiet)
  | .clearStopAction => (s.mapDispatcher (·.mapRoster ({ · with stopAction := none })), .quiet)
  | .classify u => s.classify u
  | .resetTally => (s.mapDispatcher Dispatcher.resetTally, .quiet)
  | .look => (s, .quiet)

/-- Takes steps one after the other: the session and the report after each. -/
def run (s : Session) : List Step → List (Session × Report)
  | [] => []
  | first :: rest => s.step first :: run (s.step first).1 rest

end Session

end BargeIn
