import Mathlib
import BargeIn.Replay.CommandLine
import BargeIn.Proofs.Replay.Lines

/-!
# The first bad line

A run that gets as far as its log prints what the lines in front of the first one that halts it
give, and ends there or at the end of the log (`runLog_of_stopsAt`, `runLog_of_not_halts`).  So a
bad line ends the run under its own number and with the fault in it, and what stands behind it is
never looked at; idle lines change nothing but the numbers of the lines behind them
(`stops_at_first_bad_line`).
-/

namespace BargeIn.Replay

open BargeIn.Json

/-! ## Runs that get as far as their log -/

/-- The arguments ask for a replay, the settings can be had, and the log can be read. -/
def Starts (w : Surroundings) (args : List String) (settings : Settings) (content : ByteArray) :
    Prop :=
  ∃ named, request args = .ok (.replay named) ∧ effectiveSettings w named = .ok settings ∧
    logContent w named = .ok (.ok content)

theorem Starts.run_eq {w : Surroundings} {args : List String} {settings : Settings}
    {content : ByteArray} (h : Starts w args settings content) :
    run w args = runLog settings (.ok content) := by
  obtain ⟨named, hrequest, hsettings, hcontent⟩ := h
  unfold run
  rw [hrequest]
  simp only [hsettings, hcontent]

/-- Surroundings without files and variables, where a log is typed. -/
def typed (log : String) : Surroundings := ⟨fun _ => .error .notFound, log.toUTF8, fun _ => none⟩

theorem starts_typed (log : String) : Starts (typed log) [] .standard log.toUTF8 :=
  ⟨⟨none, none⟩, rfl, rfl, rfl⟩

/-- What is printed of lines that do not halt the replay. -/
def printedOf (settings : Settings) (lines : List (Option (List Char))) : List String :=
  (((start settings).reports ((entriesOf lines).map Entry.step)).filterMap Report.decision).map
    Decision.line

theorem printedOf_congr {settings : Settings} {lines others : List (Option (List Char))}
    (h : entriesOf lines = entriesOf others) :
    printedOf settings lines = printedOf settings others := by
  unfold printedOf
  rw [h]

variable {settings : Settings} {content : ByteArray}

theorem runLog_of_not_halts (h : ∀ l ∈ linesOf content, halts l = false) :
    runLog settings (.ok content) =
      let steps := (entriesOf (linesOf content)).map Entry.step
      ⟨printedOf settings (linesOf content),
        .finished (summary ((start settings).after steps) ((start settings).reports steps))⟩ := by
  have hlines := replayLines_append h (start settings) 1 []
  rw [List.append_nil] at hlines
  simp only [runLog, replay, hlines, replayLines, List.append_nil]
  rfl

theorem runLog_of_stopsAt {before later : List (Option (List Char))} {line : Option (List Char)}
    {why : Stop} (hlines : linesOf content = before ++ line :: later)
    (hbefore : ∀ l ∈ before, halts l = false) (hstop : StopsAt (before.length + 1) line why) :
    runLog settings (.ok content) = ⟨printedOf settings before, .failed (.stopped why)⟩ := by
  have hreplay := replayLines_append hbefore (start settings) 1 (line :: later)
  rw [Nat.add_comm] at hstop
  simp only [replayLines_of_stopsAt hstop, List.append_nil] at hreplay
  simp only [runLog, replay, hlines, hreplay]
  rfl

/-! ## Lines up to a bad one -/

theorem forall_halts_map_some {lines : List (List Char)} (h : ∀ l ∈ lines, ¬Bad l) :
    ∀ l ∈ lines.map some, halts l = false := by
  intro l hl
  obtain ⟨line, hline, rfl⟩ := List.mem_map.1 hl
  rw [Bool.eq_false_iff]
  exact fun hhalts => h line hline (halts_some.1 hhalts)

theorem runLog_of_bad {text : String} {before later : List (List Char)} {bad entry : List Char}
    {fault : Fault} (hlines : linesOfText text = before ++ bad :: later)
    (hbefore : ∀ l ∈ before, ¬Bad l) (hcontent : content? bad = some entry)
    (hfault : Entry.ofText entry = .error fault) :
    runLog settings (.ok text.toUTF8) =
      ⟨printedOf settings (before.map some),
        .failed (.stopped (.badLine (before.length + 1) (String.ofList entry) fault))⟩ := by
  have hsplit : linesOf text.toUTF8 = before.map some ++ some bad :: later.map some := by
    rw [linesOf_toUTF8, hlines, List.map_append, List.map_cons]
  rw [← List.length_map (f := some)]
  exact runLog_of_stopsAt hsplit (forall_halts_map_some hbefore) (.bad hcontent hfault)

/-- The lines in front of some line, by themselves, are printed as they are in front of it. -/
theorem printed_textOfLines {lines : List (List Char)} (hgood : ∀ l ∈ lines, ¬Bad l)
    (hlines : ∀ l ∈ lines, '\n' ∉ l) :
    (runLog settings (.ok (textOfLines lines).toUTF8)).printed =
      printedOf settings (lines.map some) := by
  by_cases hne : lines = []
  · subst hne
    -- no lines make the text of one empty line, which is idle
    have hempty : linesOf (textOfLines []).toUTF8 = [some []] := linesOf_toUTF8 ""
    have hall : ∀ l ∈ linesOf (textOfLines []).toUTF8, halts l = false := by
      have hidle : halts (some []) = false := halts_of_idle rfl
      rw [hempty]
      simp [hidle]
    rw [runLog_of_not_halts hall, hempty]
    rfl
  · have hsame : linesOf (textOfLines lines).toUTF8 = lines.map some := by
      rw [linesOf_toUTF8, linesOfText_textOfLines hlines hne]
    rw [runLog_of_not_halts (by rw [hsame]; exact forall_halts_map_some hgood), hsame]

/-! ## Idle lines -/

/-- The lines that are not idle. -/
def busy (lines : List (Option (List Char))) : List (Option (List Char)) :=
  lines.filter fun l => !idle l

theorem forall_halts_congr {lines others : List (Option (List Char))}
    (hbusy : busy lines = busy others) (h : ∀ l ∈ lines, halts l = false) :
    ∀ l ∈ others, halts l = false := by
  intro l hl
  cases hidle : idle l with
  | true => exact halts_of_idle hidle
  | false =>
    have hmem : l ∈ busy others := List.mem_filter.2 ⟨hl, by simp [hidle]⟩
    rw [← hbusy] at hmem
    exact h l (List.mem_filter.1 hmem).1

/-- Either no line halts the replay, or there is a first one that does. -/
theorem exists_first_halting (lines : List (Option (List Char))) :
    (∀ l ∈ lines, halts l = false) ∨
      ∃ before line later, lines = before ++ line :: later ∧ (∀ l ∈ before, halts l = false) ∧
        halts line = true := by
  induction lines with
  | nil => exact .inl fun l hl => absurd hl List.not_mem_nil
  | cons first lines ih =>
    cases hfirst : halts first with
    | true => exact .inr ⟨[], first, lines, rfl, fun l hl => absurd hl List.not_mem_nil, hfirst⟩
    | false =>
      rcases ih with hall | ⟨before, line, later, rfl, hbefore, hline⟩
      · exact .inl (List.forall_mem_cons.2 ⟨hfirst, hall⟩)
      · exact .inr ⟨first :: before, line, later, rfl,
          List.forall_mem_cons.2 ⟨hfirst, hbefore⟩, hline⟩

/-- A line that halts the replay stands in every log with the same busy lines, behind the same busy
lines. -/
theorem exists_same_halting {before later others : List (Option (List Char))}
    {line : Option (List Char)} (hbusy : busy (before ++ line :: later) = busy others)
    (hline : halts line = true) :
    ∃ before' later', others = before' ++ line :: later' ∧ busy before = busy before' := by
  have hkept : (!idle line) = true := by simp [not_idle_of_halts hline]
  unfold busy at hbusy ⊢
  rw [List.filter_append, List.filter_cons_of_pos (p := fun l => !idle l) hkept] at hbusy
  obtain ⟨front, back, rfl, hfront, hback⟩ := List.filter_eq_append_iff.1 hbusy.symm
  obtain ⟨skipped, rest, rfl, hskipped, -, -⟩ := List.filter_eq_cons_iff.1 hback
  refine ⟨front ++ skipped, rest, by simp, ?_⟩
  have hnone : skipped.filter (fun l => !idle l) = [] := by
    rw [List.filter_eq_nil_iff]
    exact hskipped
  rw [List.filter_append, hfront, hnone, List.append_nil]

theorem entriesOf_congr {lines others : List (Option (List Char))}
    (hbusy : busy lines = busy others) : entriesOf lines = entriesOf others := by
  rw [← entriesOf_filter lines, ← entriesOf_filter others]
  exact congrArg entriesOf hbusy

/-- Runs of two logs with these lines that print the same and end alike, but for the number of a bad
line: it counts the lines of its own log, and the busy ones in front are the same in both. -/
inductive Renumbered (lines lines' : List (Option (List Char))) : Run → Run → Prop
  | finished (printed : List String) (s : Summary) :
      Renumbered lines lines' ⟨printed, .finished s⟩ ⟨printed, .finished s⟩
  | unreadable (printed : List String) (fault : FileFault) :
      Renumbered lines lines' ⟨printed, .failed (.stopped (.unreadable fault))⟩
        ⟨printed, .failed (.stopped (.unreadable fault))⟩
  | badLine (printed : List String) {before before' later later' : List (Option (List Char))}
      {bad : Option (List Char)} {text : String} {fault : Fault} :
      lines = before ++ bad :: later → lines' = before' ++ bad :: later' →
      busy before = busy before' →
      Renumbered lines lines'
        ⟨printed, .failed (.stopped (.badLine (before.length + 1) text fault))⟩
        ⟨printed, .failed (.stopped (.badLine (before'.length + 1) text fault))⟩

theorem Renumbered.exitCode_eq {lines lines' : List (Option (List Char))} {r r' : Run}
    (h : Renumbered lines lines' r r') : r.exitCode = r'.exitCode := by
  cases h <;> rfl

/-- Logs with the same busy lines give the same, up to the number of a bad line. -/
theorem renumbered_runLog {content' : ByteArray}
    (hbusy : busy (linesOf content) = busy (linesOf content')) :
    Renumbered (linesOf content) (linesOf content') (runLog settings (.ok content))
      (runLog settings (.ok content')) := by
  rcases exists_first_halting (linesOf content) with
    hall | ⟨before, line, later, hlines, hbefore, hline⟩
  · rw [runLog_of_not_halts hall, runLog_of_not_halts (forall_halts_congr hbusy hall),
      entriesOf_congr hbusy, printedOf_congr (entriesOf_congr hbusy)]
    exact .finished _ _
  · rw [hlines] at hbusy
    obtain ⟨before', later', hlines', hsame⟩ := exists_same_halting hbusy hline
    have hbefore' := forall_halts_congr hsame hbefore
    have hprinted : printedOf settings before = printedOf settings before' :=
      printedOf_congr (entriesOf_congr hsame)
    cases line with
    | none =>
      rw [runLog_of_stopsAt hlines hbefore .unreadable,
        runLog_of_stopsAt hlines' hbefore' .unreadable, hprinted]
      exact .unreadable _ _
    | some line =>
      obtain ⟨text, fault, hcontent, hfault⟩ := halts_some.1 hline
      rw [runLog_of_stopsAt hlines hbefore (.bad hcontent hfault),
        runLog_of_stopsAt hlines' hbefore' (.bad hcontent hfault), hprinted]
      exact .badLine _ hlines hlines' hsame

/-! ## The first bad line -/

theorem message_badLine {number : Nat} {text : String} {fault : Fault} (words : Wording) :
    (RunFailure.stopped (.badLine number text fault)).message words =
      "line " ++ Nat.repr number ++ ": invalid replay entry: " ++ words.ofLine text fault := by
  have hjoined : ": invalid replay entry" ++ ": " = ": invalid replay entry: " := by decide +kernel
  show "line " ++ Nat.repr number ++ ": invalid replay entry" ++ ": " ++ words.ofLine text fault = _
  rw [← hjoined, ← String.append_assoc]

/-- A run ends at the first bad line of its log: it tells the number of the line and what the reader
has to say of the fault in it, in whatever words; it has printed what the lines in front of it give
by themselves; and whatever follows has no say.  Idle lines that are put into a log or taken out of
it change the number of a bad line behind them and nothing else. -/
theorem stops_at_first_bad_line {w : Surroundings} {args : List String} {settings : Settings}
    {content : ByteArray} (h : Starts w args settings content) :
    (∀ text before bad later entry fault, content = text.toUTF8 →
      linesOfText text = before ++ bad :: later → (∀ l ∈ before, ¬Bad l) →
      content? bad = some entry → Entry.ofText entry = .error fault →
      (∃ why, (run w args).ending = .failed why ∧ ∀ words,
        why.message words = "line " ++ Nat.repr (before.length + 1) ++
          ": invalid replay entry: " ++ words.ofLine (String.ofList entry) fault) ∧
      (run w args).exitCode = 1 ∧
      (run w args).printed = (runLog settings (.ok (textOfLines before).toUTF8)).printed ∧
      ∀ text' later', linesOfText text' = before ++ bad :: later' →
        runLog settings (.ok text'.toUTF8) = run w args) ∧
    ∀ w' args' content', Starts w' args' settings content' →
      busy (linesOf content) = busy (linesOf content') →
      Renumbered (linesOf content) (linesOf content') (run w args) (run w' args') ∧
      (run w args).exitCode = (run w' args').exitCode := by
  rw [h.run_eq]
  constructor
  · rintro text before bad later entry fault rfl hlines hbefore hcontent hfault
    have hprefix : ∀ l ∈ before, '\n' ∉ l := by
      intro l hl
      apply notMem_of_mem_splitOn (s := text.toList)
      show l ∈ linesOfText text
      rw [hlines]
      exact List.mem_append_left _ hl
    have hrun : ∀ text' later', linesOfText text' = before ++ bad :: later' →
        runLog settings (.ok text'.toUTF8) = _ :=
      fun text' later' hlines' => runLog_of_bad hlines' hbefore hcontent hfault
    rw [hrun text later hlines, printed_textOfLines hbefore hprefix]
    exact ⟨⟨_, rfl, message_badLine⟩, rfl, rfl, hrun⟩
  · intro w' args' content' h' hbusy
    rw [h'.run_eq]
    have hrenumbered : Renumbered (linesOf content) (linesOf content')
        (runLog settings (.ok content)) (runLog settings (.ok content')) := renumbered_runLog hbusy
    exact ⟨hrenumbered, hrenumbered.exitCode_eq⟩

/-- A log with a slip in its fourth line. -/
def slipped : String :=
  "# a call\n[\"speaking_started\"]\n[\"transcript\",\"stop\"]\nspeaking_ended\n[\"speaking_ended\"]"

/-- The same log with idle lines in between. -/
def spaced : String :=
  "# a call\n\n[\"speaking_started\"]\n[\"transcript\",\"stop\"]\n \t\n# quiet\nspeaking_ended\n\n[\"speaking_ended\"]"

/-- The slip is told under its number, and the idle lines only shift it. -/
theorem stops_at_slip :
    Starts (typed slipped) [] .standard slipped.toUTF8 ∧
      content? "speaking_ended".toList = some "speaking_ended".toList ∧
      Entry.ofText "speaking_ended".toList = .error .malformed ∧
      (∃ why, (run (typed slipped) []).ending = .failed why ∧ ∀ words,
        why.message words = "line " ++ Nat.repr 4 ++ ": invalid replay entry: " ++
          words.ofLine (String.ofList "speaking_ended".toList) .malformed) ∧
      (run (typed slipped) []).exitCode = 1 ∧
      Renumbered (linesOf slipped.toUTF8) (linesOf spaced.toUTF8) (run (typed slipped) [])
        (run (typed spaced) []) := by
  have hstarts := starts_typed slipped
  obtain ⟨hslip, hidle⟩ := stops_at_first_bad_line hstarts
  have hcontent : content? "speaking_ended".toList = some "speaking_ended".toList := by
    decide +kernel
  have hfault : Entry.ofText "speaking_ended".toList = .error .malformed := by rfl
  obtain ⟨hmessage, hexit, -⟩ := hslip slipped
    ["# a call".toList, "[\"speaking_started\"]".toList, "[\"transcript\",\"stop\"]".toList]
    "speaking_ended".toList ["[\"speaking_ended\"]".toList] _ _ rfl (by decide +kernel)
    (by decide +kernel) hcontent hfault
  refine ⟨hstarts, hcontent, hfault, hmessage, hexit, ?_⟩
  exact (hidle (typed spaced) [] _ (starts_typed spaced) (by decide +kernel)).1

end BargeIn.Replay
