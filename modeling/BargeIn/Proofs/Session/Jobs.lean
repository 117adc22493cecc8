import Mathlib
import BargeIn.Delivery

/-!
# Jobs do not meddle

A job enters its call, and the guard adds at most one record to the log and one failure to the
counters (`Call.run_eq`).  So jobs that run one after the other are all run, whatever becomes of
those in front, and what is logged and counted of each depends on its own call alone (`foldl_run`).
Jobs that are dropped leave nothing behind (`deliver_eq`).
-/

namespace BargeIn

/-- Counts a call: a stop, and a failure if it is logged. -/
def Tally.countCall (t : Tally) (c : Call) : Tally :=
  { t with
    stopActionsInvoked := if c.isStop then t.stopActionsInvoked + 1 else t.stopActionsInvoked
    listenerFailures := if c.record?.isSome then t.listenerFailures + 1 else t.listenerFailures }

/-- The guard logs and counts what is caught, and nothing if the call completes. -/
theorem Ledger.guarded_response (w : Ledger) (c : Call) :
    w.guarded c.callee.name c.response =
      { w with
        log := w.log ++ c.record?.toList
        tally := if c.record?.isSome then w.tally.countFailure else w.tally } := by
  unfold Call.record?
  cases c.response with
  | completed => simp [guarded]
  | failed chain => rfl
  | crashed payload => rfl

/-- What a job adds to what was there. -/
theorem Call.run_eq (w : Ledger) (c : Call) :
    c.run w = ⟨w.calls ++ [c], w.log ++ c.record?.toList, w.tally.countCall c⟩ := by
  cases c with
  | listener l d =>
    show Ledger.guarded _ (callee (.listener l d)).name (response (.listener l d)) = _
    rw [Ledger.guarded_response]
    cases h : (record? (.listener l d)).isSome <;>
      simp [Ledger.addCall, Tally.countCall, Tally.countFailure, isStop, h]
  | stop l =>
    show Ledger.guarded _ (callee (.stop l)).name (response (.stop l)) = _
    rw [Ledger.guarded_response]
    cases h : (record? (.stop l)).isSome <;>
      simp [Ledger.addCall, Tally.countCall, Tally.countStop, Tally.countFailure, isStop, h]

/-- No job is kept from running by the jobs in front of it, and none has a say in what is logged of
another. -/
theorem foldl_run (jobs : List Call) (w : Ledger) :
    jobs.foldl (fun w c => c.run w) w =
      ⟨w.calls ++ jobs, w.log ++ jobs.filterMap Call.record?,
        jobs.foldl Tally.countCall w.tally⟩ := by
  induction jobs generalizing w with
  | nil => simp
  | cons c jobs ih =>
    rw [List.foldl_cons, ih, c.run_eq]
    cases hr : c.record? <;> simp [hr]

theorem foldl_spawn_shutDown (jobs : List Call) (w : Ledger) :
    jobs.foldl (Executor.spawn .shutDown) w = w := by
  induction jobs with
  | nil => rfl
  | cons c jobs ih => exact ih

namespace Dispatcher

/-- The calls that are made for a decision: all that were asked for, unless the jobs are dropped. -/
def callsFor (d : Dispatcher) (decision : Decision) : List Call :=
  match d.executor with
  | .running => d.roster.jobs decision
  | .shutDown => []

/-- What a delivery leaves behind is what its calls leave behind, each by itself. -/
theorem deliver_eq (d : Dispatcher) (decision : Decision) :
    let calls := d.callsFor decision
    d.deliver decision =
      ⟨calls, calls.filterMap Call.record?, calls.foldl Tally.countCall d.tally⟩ := by
  intro calls
  unfold deliver
  cases he : d.executor with
  | running =>
    have hcalls : calls = d.roster.jobs decision := by simp only [calls, callsFor, he]
    rw [hcalls]
    exact foldl_run _ _
  | shutDown =>
    have hcalls : calls = [] := by simp only [calls, callsFor, he]
    rw [hcalls]
    exact foldl_spawn_shutDown _ _

end Dispatcher

end BargeIn
