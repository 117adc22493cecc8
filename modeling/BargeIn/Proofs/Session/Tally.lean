import Mathlib
import BargeIn.Proofs.Session.History

/-!
# The counters account for a run

The counters of a session are determined by the turns since they were last set to zero
(`tally_after_eq`): a counter for each outcome, one for the stop actions and one for the calls that
came to nothing.  They count modulo `2 ^ 64`.  What is logged of failures tells of the failed calls,
one record for each and in their order; an executor that has been shut down leaves nothing to tell
(`tally_accounts`).
-/

namespace BargeIn

/-! ## What is counted -/

/-- Does a step set the counters to zero? -/
def Step.resets : Step → Bool
  | .resetTally => true
  | _ => false

namespace Turn

/-- Was an utterance decided with this outcome? -/
def decides (o : Outcome) (t : Turn) : Bool :=
  t.report.decision.any fun d => decide (d.outcome = o)

/-- Was there an interruption while a stop action was installed? -/
def stops (t : Turn) : Bool :=
  t.decides .validInterruption && t.session.dispatcher.roster.stopAction.isSome

end Turn

/-- The turns behind the last one that set the counters to zero. -/
def sinceReset (turns : List Turn) : List Turn := turns.rtakeWhile fun t => !t.step.resets

/-- The calls of turns, in order. -/
def callsOf (turns : List Turn) : List Call := turns.flatMap fun t => t.report.calls

/-- Does the callee give up or crash? -/
def Call.fails (c : Call) : Bool := decide (c.response ≠ .completed)

/-- Does a record tell of a call? -/
def LogRecord.isFailure : LogRecord → Bool
  | .floorIgnored => false
  | _ => true

/-- What is logged of a call that failed: a warning in which the callee and its error are named, or
the words of a crash as an error of the callee. -/
def Call.Told (c : Call) (r : LogRecord) : Prop :=
  match c.response with
  | .completed => False
  | .failed chain =>
    r.level = .warn ∧ r.message = "listener `" ++ c.callee.name ++ "` failed: " ++ joinChain chain
  | .crashed payload =>
    r.level = .error ∧ r.listener? = some c.callee.name ∧
      r.message = "listener panicked: " ++ LogRecord.payloadText payload

namespace Tally

/-- The counter of an outcome. -/
def ofOutcome (t : Tally) : Outcome → UInt64
  | .fillerIgnored => t.fillerIgnored
  | .speechRegistered => t.speechRegistered
  | .validInterruption => t.validInterruptions

/-- The counters of turns. -/
def ofTurns (turns : List Turn) : Tally where
  eventsClassified := .ofNat (turns.countP fun t => t.report.decision.isSome)
  fillerIgnored := .ofNat (turns.countP (Turn.decides .fillerIgnored))
  speechRegistered := .ofNat (turns.countP (Turn.decides .speechRegistered))
  validInterruptions := .ofNat (turns.countP (Turn.decides .validInterruption))
  stopActionsInvoked := .ofNat ((callsOf turns).countP Call.isStop)
  listenerFailures := .ofNat ((callsOf turns).countP Call.fails)

/-- Counts what is reported of a step. -/
def countReport (t : Tally) (r : Report) : Tally :=
  r.calls.foldl countCall (r.decision.elim t fun d => t.countOutcome d.outcome)

/-! ## One step -/

theorem isSome_record? (c : Call) : c.record?.isSome = c.fails := by
  unfold Call.record? Call.fails
  cases c.response <;> simp

theorem foldl_countCall (calls : List Call) (t : Tally) :
    calls.foldl countCall t =
      { t with
        stopActionsInvoked := t.stopActionsInvoked + .ofNat (calls.countP Call.isStop)
        listenerFailures := t.listenerFailures + .ofNat (calls.countP Call.fails) } := by
  induction calls generalizing t with
  | nil => simp
  | cons c calls ih =>
    rw [List.foldl_cons, ih]
    cases hs : c.isStop <;> cases hf : c.fails <;>
      simp [countCall, isSome_record?, hs, hf, UInt64.ofNat_add, UInt64.add_assoc, UInt64.add_comm]

theorem ofTurns_concat (turns : List Turn) (t : Turn) :
    ofTurns (turns ++ [t]) = (ofTurns turns).countReport t.report := by
  unfold countReport
  rw [foldl_countCall]
  cases hd : t.report.decision with
  | none => simp [ofTurns, callsOf, Turn.decides, hd, UInt64.ofNat_add]
  | some d =>
    cases ho : d.outcome <;>
      simp [ofTurns, callsOf, Turn.decides, hd, ho, countOutcome, UInt64.ofNat_add]

end Tally

/-! ## What is logged -/

namespace Call

theorem record?_eq_none {c : Call} (h : c.fails = false) : c.record? = none := by
  rw [← Option.not_isSome_iff_eq_none, Tally.isSome_record?, h]
  decide

theorem exists_told {c : Call} (h : c.fails = true) :
    ∃ r, c.record? = some r ∧ r.isFailure = true ∧ c.Told r := by
  unfold fails at h
  unfold record? Told
  cases hresponse : c.response with
  | completed => simp [hresponse] at h
  | failed chain => exact ⟨_, rfl, rfl, rfl, rfl⟩
  | crashed payload => exact ⟨_, rfl, rfl, rfl, rfl, rfl⟩

theorem told_filterMap (calls : List Call) :
    List.Forall₂ Told (calls.filter fails)
      ((calls.filterMap record?).filter LogRecord.isFailure) := by
  induction calls with
  | nil => exact .nil
  | cons c calls ih =>
    cases hf : c.fails with
    | false => simpa [hf, record?_eq_none hf] using ih
    | true =>
      obtain ⟨r, hr, hfailure, htold⟩ := exists_told hf
      simpa [hf, hr, hfailure] using And.intro htold ih

end Call

namespace Session

theorem tally_step (s : Session) (x : Step) :
    (s.step x).1.dispatcher.tally =
      if x.resets then .zero else s.dispatcher.tally.countReport (s.step x).2 := by
  cases x with
  | setFloor floor =>
    simp only [step]
    split <;> rfl
  | classify u =>
    rw [step_classify]
    rfl
  | _ => rfl

/-- The counters are those of the turns since the last reset. -/
theorem tally_after_eq (c : Settings) (executor : Executor) (steps : List Step) :
    ((new c executor).after steps).dispatcher.tally =
      Tally.ofTurns (sinceReset ((new c executor).turns steps)) := by
  induction steps using List.reverseRecOn with
  | nil => rfl
  | append_singleton steps x ih =>
    rw [after_concat, tally_step, turns_concat, sinceReset]
    cases hr : x.resets with
    | true =>
      rw [List.rtakeWhile_concat_neg _ _ _ (by simp [hr])]
      rfl
    | false =>
      rw [List.rtakeWhile_concat_pos _ _ _ (by simp [hr]), Tally.ofTurns_concat, ih]
      rfl

/-! ## One turn -/

theorem calls_step_of_shutDown {s : Session} (h : s.dispatcher.executor = .shutDown) (x : Step) :
    (s.step x).2.calls = [] := by
  rcases s.report_step x with ⟨u, rfl⟩ | ⟨hcalls, -, -⟩
  · simp [report_classify, Dispatcher.callsFor, h]
  · exact hcalls

/-- The stop action is called at an interruption, if there is one. -/
theorem countP_isStop_step {s : Session} (h : s.dispatcher.executor = .running) (x : Step) :
    (s.step x).2.calls.countP Call.isStop =
      if (⟨s, x, (s.step x).2⟩ : Turn).stops then 1 else 0 := by
  rcases s.report_step x with ⟨u, rfl⟩ | ⟨hcalls, hdecision, -⟩
  · have hlisteners : ∀ ls : List Listener,
        (ls.map (Call.listener · (s.policy.decide u))).countP Call.isStop = 0 := by
      intro ls
      simp [List.countP_eq_zero, Call.isStop]
    simp only [report_classify, Dispatcher.callsFor, h, Roster.jobs, List.countP_append,
      hlisteners, Nat.zero_add, Turn.stops, Turn.decides, Decision.isInterruption]
    cases s.dispatcher.roster.stopAction <;>
      by_cases ho : (s.policy.decide u).outcome = .validInterruption <;> simp [ho, Call.isStop]
  · simp [hcalls, hdecision, Turn.stops, Turn.decides]

/-- What a step logs of failures tells of the calls that failed. -/
theorem told_step (s : Session) (x : Step) :
    List.Forall₂ Call.Told ((s.step x).2.calls.filter Call.fails)
      ((s.step x).2.log.filter LogRecord.isFailure) := by
  rcases s.report_step x with ⟨u, rfl⟩ | ⟨hcalls, -, hlog⟩
  · rw [report_classify]
    exact Call.told_filterMap _
  · have hnone : (s.step x).2.log.filter LogRecord.isFailure = [] := by
      rw [List.filter_eq_nil_iff]
      intro r hr
      simp [hlog r hr, LogRecord.isFailure]
    rw [hcalls, hnone]
    exact .nil

/-! ## All turns -/

theorem mem_of_mem_sinceReset {turns : List Turn} {t : Turn} (h : t ∈ sinceReset turns) :
    t ∈ turns := (List.rtakeWhile_suffix _ turns).subset h

theorem countP_decided (turns : List Turn) :
    turns.countP (fun t => t.report.decision.isSome) =
      turns.countP (Turn.decides .fillerIgnored) + turns.countP (Turn.decides .speechRegistered) +
        turns.countP (Turn.decides .validInterruption) := by
  induction turns with
  | nil => rfl
  | cons t turns ih =>
    rw [List.countP_cons, List.countP_cons, List.countP_cons, List.countP_cons, ih]
    cases hd : t.report.decision with
    | none => simp [Turn.decides, hd]
    | some d => cases ho : d.outcome <;> simp [Turn.decides, hd, ho] <;> omega

theorem countP_isStop_callsOf {turns : List Turn}
    (h : ∀ t ∈ turns, t.report.calls.countP Call.isStop = if t.stops then 1 else 0) :
    (callsOf turns).countP Call.isStop = turns.countP Turn.stops := by
  induction turns with
  | nil => rfl
  | cons t turns ih =>
    have hrest := ih fun u hu => h u (List.mem_cons_of_mem _ hu)
    have hone := h t List.mem_cons_self
    unfold callsOf at hrest ⊢
    rw [List.flatMap_cons, List.countP_append, hrest, hone, List.countP_cons, Nat.add_comm]

theorem told_flatMap {turns : List Turn}
    (h : ∀ t ∈ turns, List.Forall₂ Call.Told (t.report.calls.filter Call.fails)
      (t.report.log.filter LogRecord.isFailure)) :
    List.Forall₂ Call.Told ((callsOf turns).filter Call.fails)
      ((turns.flatMap fun t => t.report.log).filter LogRecord.isFailure) := by
  induction turns with
  | nil => exact .nil
  | cons t turns ih =>
    have hrest := ih fun u hu => h u (List.mem_cons_of_mem _ hu)
    unfold callsOf at hrest ⊢
    rw [List.flatMap_cons, List.flatMap_cons, List.filter_append, List.filter_append]
    exact List.rel_append (h t List.mem_cons_self) hrest

/-- The counters of a session, after any steps, are the counts of what was decided, called and
logged since they were last set to zero. -/
theorem tally_accounts (c : Settings) (executor : Executor) (steps : List Step) :
    let turns := sinceReset ((new c executor).turns steps)
    let tally := ((new c executor).after steps).dispatcher.tally
    let failed := (callsOf turns).filter Call.fails
    let interruptions := turns.countP (Turn.decides .validInterruption)
    let stops := turns.countP Turn.stops
    (∀ o, tally.ofOutcome o = .ofNat (turns.countP (Turn.decides o))) ∧
    tally.eventsClassified =
      tally.fillerIgnored + tally.speechRegistered + tally.validInterruptions ∧
    match executor with
    | .running =>
      tally.stopActionsInvoked = .ofNat stops ∧ stops ≤ interruptions ∧
      (interruptions < 2 ^ 64 → tally.stopActionsInvoked ≤ tally.validInterruptions) ∧
      tally.listenerFailures = .ofNat failed.length ∧
      List.Forall₂ Call.Told failed
        ((turns.flatMap fun t => t.report.log).filter LogRecord.isFailure)
    | .shutDown => tally.stopActionsInvoked = 0 ∧ tally.listenerFailures = 0 := by
  intro turns tally failed interruptions stops
  have htally : tally = Tally.ofTurns turns := tally_after_eq c executor steps
  have hturn : ∀ t ∈ turns, t.report = (t.session.step t.step).2 ∧
      t.session.dispatcher.executor = executor :=
    fun t ht => of_mem_turns (mem_of_mem_sinceReset ht)
  have hle : stops ≤ interruptions := by
    apply List.countP_mono_left
    intro t _ hstops
    simp only [Turn.stops, Bool.and_eq_true] at hstops
    exact hstops.1
  rw [htally]
  refine ⟨fun o => by cases o <;> rfl, ?_, ?_⟩
  · simp only [Tally.ofTurns, countP_decided, UInt64.ofNat_add]
  cases executor with
  | running =>
    have hstops : (callsOf turns).countP Call.isStop = stops := by
      apply countP_isStop_callsOf
      intro t ht
      obtain ⟨hreport, hexecutor⟩ := hturn t ht
      have hone := countP_isStop_step hexecutor t.step
      rw [← hreport] at hone
      exact hone
    have hcounter : (Tally.ofTurns turns).stopActionsInvoked = .ofNat stops := by
      rw [← hstops]
      rfl
    refine ⟨hcounter, hle, fun hlt => ?_, ?_, ?_⟩
    · have hinterruptions : (Tally.ofTurns turns).validInterruptions = .ofNat interruptions := rfl
      rw [hcounter, hinterruptions, UInt64.le_iff_toNat_le, UInt64.toNat_ofNat',
        UInt64.toNat_ofNat', Nat.mod_eq_of_lt hlt, Nat.mod_eq_of_lt (hle.trans_lt hlt)]
      exact hle
    · rw [← List.countP_eq_length_filter]
      rfl
    · apply told_flatMap
      intro t ht
      rw [(hturn t ht).1]
      exact told_step t.session t.step
  | shutDown =>
    have hcalls : callsOf turns = [] := by
      apply List.flatMap_eq_nil_iff.2
      intro t ht
      obtain ⟨hreport, hexecutor⟩ := hturn t ht
      rw [hreport]
      exact calls_step_of_shutDown hexecutor t.step
    simp [Tally.ofTurns, hcalls]

/-- Two interruptions with a listener that gives up and a stop action that crashes, the first one
before the counters are set to zero. -/
def twiceStopped : List Step :=
  [.addListener .validInterruption ⟨"a", "a", .fails ["no line"]⟩,
    .setStopAction ⟨"b", "b", .crashes .other⟩, .speakingStarted, .classify (.ofText "stop"),
    .resetTally, .classify (.ofText "wait")]

theorem tally_twiceStopped :
    let turns := sinceReset ((new .standard .running).turns twiceStopped)
    let tally := ((new .standard .running).after twiceStopped).dispatcher.tally
    turns.countP (Turn.decides .validInterruption) = 1 ∧
    tally.stopActionsInvoked ≤ tally.validInterruptions ∧ tally.listenerFailures = 2 := by
  intro turns tally
  have hone : turns.countP (Turn.decides .validInterruption) = 1 := by decide +kernel
  have htwo : ((callsOf turns).filter Call.fails).length = 2 := by decide +kernel
  obtain ⟨-, -, -, -, hle, hfailures, -⟩ := tally_accounts .standard .running twiceStopped
  refine ⟨hone, hle ?_, ?_⟩
  · rw [hone]
    decide
  · rw [hfailures, htwo]
    rfl

end Session

end BargeIn
