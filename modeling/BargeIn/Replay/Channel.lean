/-!
# The channel of the stop action

A replay does not wait for the jobs that call its stop action.  Every job sends one message.  When
the log is at an end the session is given up, and messages are received until the channel is closed,
which it is as soon as neither the session nor a job holds the stop action.  Jobs run whenever they
get the chance, also while the log is still being replayed.

`Channel.step` says what can happen next; `settle` lets it happen in one of the possible orders.
-/

namespace BargeIn.Replay

/-- The jobs and messages of a replay: whether the session still holds the stop action, the jobs
that have not sent their message yet, those that have and hold the stop action still, and the
messages that were sent but not received, and that were received. -/
structure Channel where
  held : Bool
  waiting : Nat
  leaving : Nat
  queued : Nat
  received : Nat
  deriving Repr, DecidableEq

namespace Channel

/-- What can happen to a channel: the session starts a job, or is given up; a job sends its message,
or ends after that; a message is received, once the session has been given up. -/
inductive Event where
  | start
  | release
  | send
  | leave
  | receive
  deriving Repr, DecidableEq

/-- The channel of a session that has not started a job yet. -/
def opened : Channel := ⟨true, 0, 0, 0, 0⟩

/-- The channel of a session that was given up when it had started some jobs, before any of them
has run. -/
def released (jobs : Nat) : Channel := ⟨false, jobs, 0, 0, 0⟩

/-- The channel after an event, if the event is possible. -/
def step (c : Channel) : Event → Option Channel
  | .start => if c.held then some { c with waiting := c.waiting + 1 } else none
  | .release => if c.held then some { c with held := false } else none
  | .send =>
    if 0 < c.waiting then
      some { c with waiting := c.waiting - 1, leaving := c.leaving + 1, queued := c.queued + 1 }
    else none
  | .leave => if 0 < c.leaving then some { c with leaving := c.leaving - 1 } else none
  | .receive =>
    if !c.held ∧ 0 < c.queued then
      some { c with queued := c.queued - 1, received := c.received + 1 }
    else none

/-- Is there nothing to wait for: no message, and nobody who could send one? -/
def isOver (c : Channel) : Bool :=
  !c.held && c.waiting == 0 && c.leaving == 0 && c.queued == 0

/-- One of the events that are possible once the session has been given up. -/
def advance (c : Channel) : Option Channel :=
  (c.step .send).or ((c.step .leave).or (c.step .receive))

def settle : (moves : Nat) → Channel → Channel
  | 0, c => c
  | moves + 1, c =>
    match c.advance with
    | some d => settle moves d
    | none => c

/-- The number of messages received of so many jobs.  A job takes three events: it sends, it ends,
and its message is received. -/
def messages (jobs : Nat) : Nat := (settle (3 * jobs) (released jobs)).received

end Channel

end BargeIn.Replay
