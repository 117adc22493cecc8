import Mathlib
import BargeIn.Proofs.Decision.Line
import BargeIn.Session

/-!
# Lines of a session

Every decision of a session can be printed as a line, but not every line gives the decision back.
It does exactly when the confidences in it are finite and the metadata is restored; and a line that
can be read at all gives everything else back (`line_comes_back`).  A report may hold a number
beyond all singles, which is read as an infinite confidence: the line of such an utterance loses it,
or is refused (`overflowing_line_refused`).
-/

namespace BargeIn

open BargeIn.Number BargeIn.Json

namespace Session

/-- Of an utterance that was read from a text, the line of the decision is read as that decision
exactly when all confidences in it are finite and the metadata is restored, where brackets may be
nested three less deep than in a document.  Whatever is read of the line differs from the decision
in lost confidences and in the metadata only. -/
theorem line_comes_back {text : String} {u : Utterance} (hu : Utterance.codec.ofText text = .ok u)
    (s : Session) :
    ∃ d, (s.step (.classify u)).2.decision = some d ∧ d.utterance = u ∧
      (Decision.codec.ofText d.line = .ok d ↔
        (∀ c ∈ d.confidences, c.isFinite = true) ∧ ∀ m ∈ u.metadata, m.2.Restored 124) ∧
      ∀ e, Decision.codec.ofText d.line = .ok e → e = { d with
        confidence := d.confidence.filter Binary.isFinite
        utterance := { u with
          confidence := u.confidence.filter Binary.isFinite
          metadata := e.utterance.metadata } } := by
  refine ⟨s.policy.decide u, rfl, rfl, ?_, fun e he => ?_⟩
  · rw [← toOption_eq_some, Decision.ofText_line, Decision.reread_eq_self]
    exact and_congr_right fun _ => rereadMembers_eq_self (Utterance.gathered_metadata hu)
  · rw [← toOption_eq_some, Decision.ofText_line] at he
    exact Decision.eq_of_reread he

/-- A word that is reported with full confidence and some metadata. -/
def heard : Utterance :=
  ⟨"", none, none, [⟨"stop", .ofNat false 1⟩],
    [("by", .array [.null, .bool true]), ("id", .number (.integer 7))]⟩

/-- The text of the report. -/
def reported : String :=
  "\x7b\"text\":\"\",\"tokens\":null,\"confidence\":null,\"words\":[\x7b\"word\":\"stop\"," ++
    "\"confidence\":1.0\x7d],\"metadata\":\x7b\"by\":[null,true],\"id\":7\x7d\x7d"

theorem ofText_reported : Utterance.codec.ofText reported = .ok heard := by
  have htext : reported = (Utterance.codec.toJson heard).compact := by decide +kernel
  have hfinite : ∀ c ∈ heard.confidences, c.isFinite = true := by decide
  rw [htext, ← toOption_eq_some, (Utterance.codec_returns 124 heard).ofText_compact]
  exact Utterance.reread_eq_self.2 ⟨hfinite, rfl⟩

/-- The line of the decision on the report is read as the decision. -/
theorem line_comes_back_heard :
    Utterance.codec.ofText reported = .ok heard ∧
    ∃ d, ((new .standard .running).step (.classify heard)).2.decision = some d ∧
      (∀ c ∈ d.confidences, c.isFinite = true) ∧
      (∀ m ∈ heard.metadata, m.2.Restored 124) ∧ Decision.codec.ofText d.line = .ok d := by
  refine ⟨ofText_reported, ?_⟩
  obtain ⟨d, hd, -, hline, -⟩ := line_comes_back ofText_reported (new .standard .running)
  have hfinite : ∀ c ∈ d.confidences, c.isFinite = true := by
    obtain rfl := Option.some.inj hd
    decide +kernel
  have hmetadata : ∀ m ∈ heard.metadata, m.2.Restored 124 := by
    simp [heard, Restored, Numeral.Restored]
  exact ⟨d, hd, hfinite, hmetadata, hline.2 ⟨hfinite, hmetadata⟩⟩

/-! ## Infinite confidences -/

/-- The text of a report with a confidence beyond all singles. -/
def overflowing : String :=
  "\x7b\"words\":[\x7b\"word\":\"stop\",\"confidence\":1e39\x7d]\x7d"

theorem ofText_overflowing :
    ∃ u, Utterance.codec.ofText overflowing = .ok u ∧ u.words = [⟨"stop", .infinity false⟩] := by
  have h : (Utterance.codec.ofText overflowing).toOption.map Utterance.words =
      some [⟨"stop", .infinity false⟩] := by
    decide +kernel
  obtain ⟨u, hu, hwords⟩ := Option.map_eq_some_iff.1 h
  exact ⟨u, toOption_eq_some.1 hu, hwords⟩

/-- The report is accepted, and the line of its decision is refused. -/
theorem overflowing_line_refused :
    ∃ u d, Utterance.codec.ofText overflowing = .ok u ∧
      ((new .standard .running).step (.classify u)).2.decision = some d ∧
      ∃ fault, Decision.codec.ofText d.line = .error fault := by
  obtain ⟨u, hu, hwords⟩ := ofText_overflowing
  refine ⟨u, (new .standard .running).policy.decide u, hu, rfl, ?_⟩
  have hnone : (Decision.codec.ofText ((new .standard .running).policy.decide u).line).toOption =
      none := by
    rw [Decision.ofText_line]
    show (Utterance.reread 124 u).bind _ = none
    rw [Utterance.reread, hwords]
    rfl
  cases h : Decision.codec.ofText ((new .standard .running).policy.decide u).line with
  | error fault => exact ⟨fault, rfl⟩
  | ok d =>
    rw [h] at hnone
    cases hnone

end Session

end BargeIn
