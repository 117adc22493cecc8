import Mathlib
import BargeIn.Proofs.Session.History

/-!
# Every decision is delivered once

Who is called with a decision depends on the steps before it and on nothing else: the listeners that
were registered for its outcome and not removed since, each as often as it was registered, and for
an interruption the stop action that was set last.  What a listener does when it is called, giving
up or crashing included, has no say (`run_delivers`).
-/

namespace BargeIn

/-! ## Who is registered -/

namespace Step

/-- The listener that a step registers for an outcome. -/
def registers (o : Outcome) : Step → Option Listener
  | .addListener p l => if p = o then some l else none
  | _ => none

/-- Does a step remove the listeners of an outcome? -/
def clears (o : Outcome) : Step → Bool
  | .clearListeners p => decide (p = o)
  | _ => false

/-- The stop action, or none, that a step installs. -/
def stopAction? : Step → Option (Option Listener)
  | .setStopAction l => some (some l)
  | .clearStopAction => some none
  | _ => none

/-- What a step makes of a roster. -/
def editRoster : Step → Roster → Roster
  | .addListener o l, r => r.addListener o l
  | .clearListeners o, r => r.clearListeners o
  | .setStopAction l, r => { r with stopAction := some l }
  | .clearStopAction, r => { r with stopAction := none }
  | _, r => r

end Step

/-- The listeners registered for an outcome behind the last step that removed those before. -/
def registered (o : Outcome) (steps : List Step) : List Listener :=
  (steps.rtakeWhile fun x => !x.clears o).filterMap (Step.registers o)

theorem registered_concat (o : Outcome) (steps : List Step) (x : Step) :
    registered o (steps ++ [x]) =
      if x.clears o then [] else registered o steps ++ (x.registers o).toList := by
  unfold registered
  cases hc : x.clears o with
  | true => simp [hc]
  | false => cases hr : x.registers o <;> simp [hc, hr]

/-! ## The roster of a session -/

@[simp] theorem Roster.stopAction_setListeners (r : Roster) (o : Outcome) (ls : List Listener) :
    (r.setListeners o ls).stopAction = r.stopAction := by
  cases o <;> rfl

@[simp] theorem Roster.listeners_mk_stopAction (r : Roster) (action : Option Listener)
    (o : Outcome) : ({ r with stopAction := action } : Roster).listeners o = r.listeners o := by
  cases o <;> rfl

theorem Step.listeners_editRoster (x : Step) (r : Roster) (o : Outcome) :
    (x.editRoster r).listeners o =
      if x.clears o then [] else r.listeners o ++ (x.registers o).toList := by
  cases x with
  | addListener p l =>
    by_cases hp : p = o
    · subst hp
      simp [editRoster, Roster.addListener, clears, registers]
    · simp [editRoster, Roster.addListener, clears, registers, hp, Ne.symm hp]
  | clearListeners p =>
    by_cases hp : p = o
    · subst hp
      simp [editRoster, Roster.clearListeners, clears]
    · simp [editRoster, Roster.clearListeners, clears, registers, hp, Ne.symm hp]
  | _ => simp [editRoster, clears, registers]

theorem Step.stopAction_editRoster (x : Step) (r : Roster) :
    (x.editRoster r).stopAction = x.stopAction?.getD r.stopAction := by
  cases x <;> simp [editRoster, stopAction?, Roster.addListener, Roster.clearListeners]

namespace Session

theorem roster_step (s : Session) (x : Step) :
    (s.step x).1.dispatcher.roster = x.editRoster s.dispatcher.roster := by
  cases x with
  | setFloor floor =>
    simp only [step]
    split <;> rfl
  | _ => rfl

variable (c : Settings) (executor : Executor) (steps : List Step)

theorem listeners_after (o : Outcome) :
    ((new c executor).after steps).dispatcher.roster.listeners o = registered o steps := by
  induction steps using List.reverseRecOn with
  | nil => cases o <;> rfl
  | append_singleton steps x ih =>
    rw [after_concat, roster_step, Step.listeners_editRoster, ih, registered_concat]

theorem stopAction_after :
    ((new c executor).after steps).dispatcher.roster.stopAction =
      lastWrite Step.stopAction? none steps := by
  induction steps using List.reverseRecOn with
  | nil => rfl
  | append_singleton steps x ih =>
    rw [after_concat, roster_step, Step.stopAction_editRoster, ih, lastWrite_concat]

/-! ## Calls -/

/-- What a step returns and calls after the steps `before`. -/
def Delivers (before : List Step) : Step → Report → Prop
  | .classify u, r => ∃ d, r.decision = some d ∧ d.utterance = u ∧
      r.calls = (registered d.outcome before).map (Call.listener · d) ++
        if d.outcome = .validInterruption then
          (lastWrite Step.stopAction? none before).toList.map Call.stop
        else []
  | _, r => r.decision = none ∧ r.calls = []

/-- A step delivers if the roster lists who is registered. -/
theorem delivers_step {s : Session} {before : List Step} (hrun : s.dispatcher.executor = .running)
    (hlisteners : ∀ o, s.dispatcher.roster.listeners o = registered o before)
    (hstop : s.dispatcher.roster.stopAction = lastWrite Step.stopAction? none before) (x : Step) :
    Delivers before x (s.step x).2 := by
  cases x with
  | classify u =>
    refine ⟨s.policy.decide u, rfl, rfl, ?_⟩
    rw [report_classify, Dispatcher.callsFor, hrun]
    simp only [Roster.jobs, hlisteners, hstop, Decision.isInterruption, decide_eq_true_eq]
  | setFloor floor =>
    simp only [step]
    split <;> exact ⟨rfl, rfl⟩
  | _ => exact ⟨rfl, rfl⟩

/-- In every run, every step calls whom it is to call, each of them once, with the decision that it
returns. -/
theorem run_delivers (before later : List Step) (x : Step) :
    ∃ s r, ((new c .running).run (before ++ x :: later))[before.length]? = some (s, r) ∧
      Delivers before x r := by
  refine ⟨_, _, getElem?_run _ before later x, ?_⟩
  apply delivers_step
  · exact executor_after (new c .running) before
  · intro o
    exact listeners_after c .running before o
  · exact stopAction_after c .running before

end Session

end BargeIn
