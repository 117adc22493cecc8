import Mathlib
import BargeIn.Proofs.Session.Jobs
import BargeIn.Session

/-!
# Histories of a session

What a session is after some steps can be told from the steps alone, without running it: most of its
parts hold what the last of the steps that write them has written,

    lastWrite write start (steps ++ [x]) = (write x).getD (lastWrite write start steps)

A run reports at every place what the step there reports in the session after the steps before it
(`getElem?_run`).  The turns of a run are its reports, each beside its step and the session in which
the step was taken.
-/

namespace BargeIn

/-! ## Steps that write -/

/-- What the last of the steps that write a value has written, or `start` if none has. -/
def lastWrite {α : Type} (write : Step → Option α) (start : α) (steps : List Step) : α :=
  (steps.filterMap write).getLast?.getD start

@[simp] theorem lastWrite_nil {α : Type} (write : Step → Option α) (start : α) :
    lastWrite write start [] = start := rfl

theorem lastWrite_concat {α : Type} (write : Step → Option α) (start : α) (steps : List Step)
    (x : Step) :
    lastWrite write start (steps ++ [x]) = (write x).getD (lastWrite write start steps) := by
  unfold lastWrite
  rw [List.filterMap_append]
  cases hx : write x with
  | none => simp [hx]
  | some a => simp [hx]

/-- Steps that write nothing can be left out. -/
theorem lastWrite_filter {α : Type} {write : Step → Option α} {keep : Step → Bool}
    (h : ∀ x, keep x = false → write x = none) (start : α) (steps : List Step) :
    lastWrite write start (steps.filter keep) = lastWrite write start steps := by
  have hsame : ∀ x ∈ steps, (if keep x = true then write x else none) = write x := by
    intro x _
    by_cases hx : keep x = true
    · rw [if_pos hx]
    · rw [if_neg hx, h x (by simpa using hx)]
  unfold lastWrite
  rw [List.filterMap_filter, List.filterMap_congr hsame]

/-- What holds at the start and of everything that is written holds of the last write. -/
theorem lastWrite_of_forall {α : Type} {write : Step → Option α} {start : α} {P : α → Prop}
    (hstart : P start) (hwrite : ∀ x, ∀ a ∈ write x, P a) (steps : List Step) :
    P (lastWrite write start steps) := by
  unfold lastWrite
  cases hlast : (steps.filterMap write).getLast? with
  | none => exact hstart
  | some a =>
    obtain ⟨x, -, hx⟩ := List.mem_filterMap.1 (List.mem_of_getLast? hlast)
    exact hwrite x a hx

namespace Session

/-! ## One step -/

/-- A decision is counted, and then the calls that it leads to. -/
theorem step_classify (s : Session) (u : Utterance) :
    let d := s.policy.decide u
    let calls := s.dispatcher.callsFor d
    let tally := calls.foldl Tally.countCall (s.dispatcher.tally.countOutcome d.outcome)
    s.step (.classify u) =
      ({ s with dispatcher := { s.dispatcher with tally := tally } },
        ⟨calls, calls.filterMap Call.record?, some d⟩) := by
  intro d calls tally
  have hdeliver := (s.dispatcher.countOutcome d.outcome).deliver_eq d
  simp only [step, classify, Dispatcher.dispatch, show s.policy.decide u = d from rfl, hdeliver]
  rfl

theorem report_classify (s : Session) (u : Utterance) :
    (s.step (.classify u)).2 =
      ⟨s.dispatcher.callsFor (s.policy.decide u),
        (s.dispatcher.callsFor (s.policy.decide u)).filterMap Call.record?,
        some (s.policy.decide u)⟩ := by
  rw [step_classify]

/-- A step that decides nothing calls nobody, and logs at most that a floor was ignored. -/
theorem report_step (s : Session) (x : Step) :
    (∃ u, x = .classify u) ∨ (s.step x).2.calls = [] ∧ (s.step x).2.decision = none ∧
      ∀ r ∈ (s.step x).2.log, r = .floorIgnored := by
  cases x with
  | classify u => exact Or.inl ⟨u, rfl⟩
  | setFloor floor =>
    right
    simp only [step]
    split
    · exact ⟨rfl, rfl, by simp [Report.quiet]⟩
    · exact ⟨rfl, rfl, by simp⟩
  | _ => exact Or.inr ⟨rfl, rfl, by simp [step, Report.quiet]⟩

/-! ## Sessions after some steps -/

/-- The session after some steps. -/
def after (s : Session) (steps : List Step) : Session := steps.foldl (fun s x => (s.step x).1) s

@[simp] theorem after_nil (s : Session) : s.after [] = s := rfl

theorem after_concat (s : Session) (steps : List Step) (x : Step) :
    s.after (steps ++ [x]) = ((s.after steps).step x).1 := by
  simp [after]

theorem getElem?_run (s : Session) (before later : List Step) (x : Step) :
    (s.run (before ++ x :: later))[before.length]? = some ((s.after before).step x) := by
  induction before generalizing s with
  | nil => rfl
  | cons y before ih => exact ih (s.step y).1

/-- The reports of steps that are taken one after the other. -/
def reports (s : Session) (steps : List Step) : List Report := (s.run steps).map Prod.snd

/-- No step changes what becomes of calls. -/
theorem executor_after (s : Session) (steps : List Step) :
    (s.after steps).dispatcher.executor = s.dispatcher.executor := by
  induction steps using List.reverseRecOn with
  | nil => rfl
  | append_singleton steps x ih =>
    rw [after_concat, ← ih]
    cases x with
    | setFloor floor =>
      simp only [step]
      split <;> rfl
    | _ => rfl

/-! ## Turns -/

end Session

/-- A step of a run: the session that it is taken in, the step, and what it reports. -/
structure Turn where
  session : Session
  step : Step
  report : Report

namespace Session

/-- The turns of a run. -/
def turns (s : Session) : List Step → List Turn
  | [] => []
  | x :: rest => ⟨s, x, (s.step x).2⟩ :: turns (s.step x).1 rest

theorem map_report_turns (s : Session) (steps : List Step) :
    (s.turns steps).map Turn.report = s.reports steps := by
  induction steps generalizing s with
  | nil => rfl
  | cons x rest ih => exact congrArg (_ :: ·) (ih (s.step x).1)

theorem map_step_turns (s : Session) (steps : List Step) :
    (s.turns steps).map Turn.step = steps := by
  induction steps generalizing s with
  | nil => rfl
  | cons x rest ih => exact congrArg (_ :: ·) (ih (s.step x).1)

theorem turns_concat (s : Session) (steps : List Step) (x : Step) :
    s.turns (steps ++ [x]) =
      s.turns steps ++ [⟨s.after steps, x, ((s.after steps).step x).2⟩] := by
  induction steps generalizing s with
  | nil => rfl
  | cons y steps ih => exact congrArg (_ :: ·) (ih (s.step y).1)

/-- A turn reports what its step reports in its session. -/
theorem of_mem_turns {s : Session} {steps : List Step} {t : Turn} (h : t ∈ s.turns steps) :
    t.report = (t.session.step t.step).2 ∧
      t.session.dispatcher.executor = s.dispatcher.executor := by
  induction steps using List.reverseRecOn with
  | nil => exact absurd h List.not_mem_nil
  | append_singleton steps x ih =>
    rw [turns_concat, List.mem_append, List.mem_singleton] at h
    rcases h with h | rfl
    · exact ih h
    · exact ⟨rfl, executor_after s steps⟩

end Session

end BargeIn
