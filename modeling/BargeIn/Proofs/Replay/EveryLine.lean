import Mathlib
import BargeIn.Proofs.Replay.Channel
import BargeIn.Proofs.Replay.FirstBadLine
import BargeIn.Proofs.Session.Delivery
import BargeIn.Proofs.Session.LastWrites
import BargeIn.Proofs.Session.Tally

/-!
# Every line of a log is replayed

A log without a bad line is replayed to its end.  For every utterance in it a line is printed, with
the decision that a session of its own would make once it was told of the entries in front that say
when the agent speaks.  The counters of the replay, the printed lines and the messages of the stop
jobs tell the same (`replays_every_line`).
-/

namespace BargeIn.Replay

/-! ## Entries as steps -/

namespace Entry

/-- Is the entry an utterance? -/
def isHeard : Entry → Bool
  | .heard _ => true
  | _ => false

theorem stopAction?_step (e : Entry) : e.step.stopAction? = none := by
  cases e <;> rfl

theorem resets_step (e : Entry) : e.step.resets = false := by
  cases e <;> rfl

theorem setsPolicy_step (e : Entry) : e.step.setsPolicy = !e.isHeard := by
  cases e <;> rfl

end Entry

end Replay

namespace Session

theorem reports_append (s : Session) (steps more : List Step) :
    s.reports (steps ++ more) = s.reports steps ++ (s.after steps).reports more := by
  induction steps generalizing s with
  | nil => rfl
  | cons x steps ih => exact congrArg (_ :: ·) (ih (s.step x).1)

end Session

namespace Replay

/-- The decisions among reports. -/
def decisionsOf (reports : List Report) : List Decision := reports.filterMap Report.decision

/-- There is a decision for every utterance. -/
theorem length_decisionsOf (s : Session) (entries : List Entry) :
    (decisionsOf (s.reports (entries.map Entry.step))).length = entries.countP Entry.isHeard := by
  induction entries generalizing s with
  | nil => rfl
  | cons e entries ih =>
    have hrest := ih (s.step e.step).1
    cases e with
    | heard u =>
      rw [List.countP_cons_of_pos rfl, ← hrest]
      rfl
    | _ =>
      rw [List.countP_cons_of_neg (by decide), ← hrest]
      rfl

/-- The decision on an utterance is the one that the session comes to behind the entries in front of
it. -/
theorem getElem?_decisionsOf (s : Session) (before later : List Entry) (u : Utterance) :
    (decisionsOf (s.reports ((before ++ .heard u :: later).map Entry.step)))[
        before.countP Entry.isHeard]? =
      some ((s.after (before.map Entry.step)).policy.decide u) := by
  rw [List.map_append, s.reports_append, decisionsOf, List.filterMap_append]
  have hlength := length_decisionsOf s before
  unfold decisionsOf at hlength
  rw [← hlength, List.getElem?_append_right (Nat.le_refl _), Nat.sub_self]
  rfl

/-! ## The session of a replay -/

theorem start_after (settings : Settings) (steps : List Step) :
    (start settings).after steps =
      (Session.new settings .running).after (.setStopAction stopAction :: steps) := rfl

/-- Of the entries in front of it, an utterance is decided by those that are no utterances, and by a
session without a stop action as by one with it. -/
theorem policy_start_after (settings : Settings) (entries : List Entry) :
    ((start settings).after (entries.map Entry.step)).policy =
      ((Session.new settings .running).after
        ((entries.filter fun e => !e.isHeard).map Entry.step)).policy := by
  rw [start_after, Session.policy_after, Session.policy_after, ← Policy.lastWritten_filter,
    List.filter_cons_of_neg (by decide), List.filter_map]
  congr 2
  exact List.filter_congr fun e _ => e.setsPolicy_step

/-- While a stop action is installed, every interruption starts a stop job, and nothing else
does. -/
theorem stopJobs_reports {s : Session} (hrun : s.dispatcher.executor = .running)
    (hstop : s.dispatcher.roster.stopAction.isSome = true) (entries : List Entry) :
    stopJobs (s.reports (entries.map Entry.step)) =
      (decisionsOf (s.reports (entries.map Entry.step))).countP
        fun d => d.outcome = .validInterruption := by
  induction entries generalizing s with
  | nil => rfl
  | cons e entries ih =>
    have hrun' : (s.step e.step).1.dispatcher.executor = .running :=
      (s.executor_after [e.step]).trans hrun
    have hstop' : (s.step e.step).1.dispatcher.roster.stopAction.isSome = true := by
      rw [s.roster_step, Step.stopAction_editRoster, e.stopAction?_step]
      exact hstop
    have hrest := ih hrun' hstop'
    have hone := Session.countP_isStop_step hrun e.step
    have hcons : s.reports ((e :: entries).map Entry.step) =
        (s.step e.step).2 :: (s.step e.step).1.reports (entries.map Entry.step) := rfl
    unfold stopJobs decisionsOf at hrest ⊢
    rw [hcons, List.flatMap_cons, List.countP_append, hone, hrest]
    simp only [Turn.stops, hstop, Bool.and_true, Turn.decides]
    cases hd : (s.step e.step).2.decision with
    | none => simp [hd]
    | some d => by_cases ho : d.outcome = .validInterruption <;> simp [hd, ho, Nat.add_comm]

/-! ## Counters -/

theorem countP_decision (p : Decision → Bool) (turns : List Turn) :
    turns.countP (fun t => t.report.decision.any p) =
      (decisionsOf (turns.map Turn.report)).countP p := by
  induction turns with
  | nil => rfl
  | cons t turns ih =>
    unfold decisionsOf at ih ⊢
    rw [List.countP_cons, ih, List.map_cons]
    cases hd : t.report.decision with
    | none => simp [hd]
    | some d => simp [hd, List.countP_cons]

/-- The counters of a replay are those of turns that give its decisions. -/
theorem tally_start_after (settings : Settings) (entries : List Entry) :
    ∃ turns, ((start settings).after (entries.map Entry.step)).dispatcher.tally =
        Tally.ofTurns turns ∧
      decisionsOf (turns.map Turn.report) =
        decisionsOf ((start settings).reports (entries.map Entry.step)) := by
  let steps : List Step := .setStopAction stopAction :: entries.map Entry.step
  have hkept : ∀ t ∈ (Session.new settings .running).turns steps, (!t.step.resets) = true := by
    intro t ht
    have hstep : t.step ∈ steps := by
      rw [← Session.map_step_turns (Session.new settings .running) steps]
      exact List.mem_map_of_mem ht
    rcases List.mem_cons.1 hstep with hstep | hstep
    · rw [hstep]
      rfl
    · obtain ⟨e, -, he⟩ := List.mem_map.1 hstep
      rw [← he, e.resets_step]
      rfl
  refine ⟨(Session.new settings .running).turns steps, ?_, ?_⟩
  · rw [start_after, Session.tally_after_eq, sinceReset, List.rtakeWhile_eq_self_iff.2 hkept]
  · rw [Session.map_report_turns]
    rfl

/-- Every counter of the summary tells what the decisions tell. -/
theorem summary_start_after (settings : Settings) (entries : List Entry) :
    let reports := (start settings).reports (entries.map Entry.step)
    let decisions := decisionsOf reports
    let count := fun o => decisions.countP fun d => decide (d.outcome = o)
    summary ((start settings).after (entries.map Entry.step)) reports =
      { events := .ofNat decisions.length
        interruptions := .ofNat (count .validInterruption)
        filler := .ofNat (count .fillerIgnored)
        registered := .ofNat (count .speechRegistered)
        stops := .ofNat (count .validInterruption) } ∧
    decisions.length =
      count .validInterruption + count .fillerIgnored + count .speechRegistered := by
  intro reports decisions count
  obtain ⟨turns, htally, hdecisions⟩ := tally_start_after settings entries
  have hcount : ∀ o, turns.countP (Turn.decides o) = count o := by
    intro o
    have hturns := countP_decision (fun d => decide (d.outcome = o)) turns
    rw [hdecisions] at hturns
    exact hturns
  have hlength : turns.countP (fun t => t.report.decision.isSome) = decisions.length := by
    have hturns := countP_decision (fun _ => true) turns
    rw [hdecisions, List.countP_true] at hturns
    rw [← hturns]
    congr 1
  constructor
  · have hjobs : stopJobs reports = count .validInterruption :=
      stopJobs_reports (s := start settings) rfl rfl entries
    unfold summary
    simp only [htally, Tally.ofTurns, hcount, hlength, Channel.messages_eq, hjobs]
  · rw [← hlength, Session.countP_decided, hcount, hcount, hcount]
    omega

/-! ## A whole log -/

/-- A log without a bad line is replayed to its end.  The printed lines are the decisions on its
utterances, one for each and in their order, each made by a session of the effective settings that
was told of the speaking entries in front and of nothing else; the summary counts these decisions,
and the messages of the stop jobs are as many as the interruptions, whatever order the jobs run
in. -/
theorem replays_every_line {w : Surroundings} {args : List String} {settings : Settings}
    {text : String} (h : Starts w args settings text.toUTF8)
    (hgood : ∀ l ∈ linesOfText text, ¬Bad l) :
    let entries := entriesOf ((linesOfText text).map some)
    ∃ (decisions : List Decision) (s : Summary),
      run w args = ⟨decisions.map Decision.line, .finished s⟩ ∧ (run w args).exitCode = 0 ∧
      decisions.length = entries.countP Entry.isHeard ∧
      (∀ before u later, entries = before ++ .heard u :: later →
        decisions[before.countP Entry.isHeard]? =
          (((Session.new settings .running).after
            ((before.filter fun e => !e.isHeard).map Entry.step)).step (.classify u)).2.decision) ∧
      s.events = .ofNat decisions.length ∧
      s.interruptions = .ofNat (decisions.countP fun d => d.outcome = .validInterruption) ∧
      s.filler = .ofNat (decisions.countP fun d => d.outcome = .fillerIgnored) ∧
      s.registered = .ofNat (decisions.countP fun d => d.outcome = .speechRegistered) ∧
      s.events = s.interruptions + s.filler + s.registered ∧ s.stops = s.interruptions ∧
      ∀ events c, Channel.opened.after events = some c →
        events.count .start = decisions.countP (fun d => d.outcome = .validInterruption) →
        c.isOver = true → UInt64.ofNat c.received = s.stops := by
  intro entries
  have hlines : linesOf text.toUTF8 = (linesOfText text).map some := linesOf_toUTF8 text
  have hrun := h.run_eq.trans (runLog_of_not_halts (by
    rw [hlines]
    exact forall_halts_map_some hgood))
  rw [hlines] at hrun
  obtain ⟨hsummary, hlength⟩ := summary_start_after settings entries
  refine ⟨decisionsOf ((start settings).reports (entries.map Entry.step)), _, hrun, ?_,
    length_decisionsOf _ _, ?_, ?_⟩
  · rw [hrun]
    rfl
  · intro before u later hentries
    rw [hentries, getElem?_decisionsOf, policy_start_after, Session.report_classify]
  · rw [hsummary]
    refine ⟨rfl, rfl, rfl, rfl, ?_, rfl, ?_⟩
    · rw [hlength, UInt64.ofNat_add, UInt64.ofNat_add]
    · intro events c hevents hcount hover
      rw [Channel.received_of_isOver hevents hover, hcount]

/-- A call in which the agent is told to stop while it speaks, and once more when it is quiet. -/
def call : String :=
  "# a call\n[\"speaking_started\"]\n[\"transcript\",\"stop\"]\n\n[\"speaking_ended\"]\n[\"transcript\",\"stop\"]"

/-- Both utterances are decided, and the replay is told to stop as often as it counts. -/
theorem replays_call :
    Starts (typed call) [] .standard call.toUTF8 ∧ (∀ l ∈ linesOfText call, ¬Bad l) ∧
      (entriesOf ((linesOfText call).map some)).countP Entry.isHeard = 2 ∧
      ∃ (decisions : List Decision) (s : Summary),
        run (typed call) [] = ⟨decisions.map Decision.line, .finished s⟩ ∧
        decisions.length = 2 ∧ s.events = s.interruptions + s.filler + s.registered ∧
        s.stops = s.interruptions := by
  have hstarts := starts_typed call
  have hgood : ∀ l ∈ linesOfText call, ¬Bad l := by decide +kernel
  have hheard : (entriesOf ((linesOfText call).map some)).countP Entry.isHeard = 2 := by
    decide +kernel
  obtain ⟨decisions, s, hrun, -, hlength, -, -, -, -, -, hsum, hstops, -⟩ :=
    replays_every_line hstarts hgood
  exact ⟨hstarts, hgood, hheard, decisions, s, hrun, hlength.trans hheard, hsum, hstops⟩

end BargeIn.Replay
