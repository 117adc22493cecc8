import Mathlib
import BargeIn.Session
import BargeIn.Proofs.Decision.Table

/-!
# What a session answers

Two sessions are told apart by what they answer to an utterance, while the agent speaks or while it
is quiet.  `answer_eq` ties the steps of a session to its policy.
-/

namespace BargeIn

open BargeIn.Text

namespace Policy

/-- A decision by a stop entry names what was heard. -/
theorem judge_eq_forceStop {p : Policy} {tokens hits : List String}
    (h : p.judge tokens = (.validInterruption, .forceStopWord, hits)) :
    p.stops.matchesIn tokens = hits := by
  have hhits := (p.judge_iff tokens).2.1.1 (congrArg (·.2.1) h)
  rw [judge_of_hits hhits] at h
  simpa using h

end Policy

namespace Session

/-- The decision on an utterance, after it was told whether the agent speaks. -/
def answer (s : Session) (speaking : Bool) (u : Utterance) : Option Decision :=
  ((s.step (if speaking then .speakingStarted else .speakingEnded)).1.step
    (.classify u)).2.decision

theorem answer_eq (s : Session) (speaking : Bool) (u : Utterance) :
    s.answer speaking u = some ({ s.policy with speaking := speaking }.decide u) := by
  cases speaking <;> rfl

end Session

end BargeIn
