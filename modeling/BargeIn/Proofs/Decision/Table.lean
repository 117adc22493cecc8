import Mathlib
import BargeIn.Decision
import BargeIn.Proofs.Number.Order
import BargeIn.Proofs.Vocabulary.Occurrence

/-!
# The decision table

Two matchers and an optional confidence decide in a fixed order.  The table below says when each
verdict is given, in terms of the configured texts and the tokens alone: its five conditions exclude
each other and leave nothing out.
-/

namespace BargeIn

open BargeIn.Number BargeIn.Text

/-- The part of a decision that the rules choose. -/
def Decision.verdict (d : Decision) : Outcome × Reason × List String :=
  (d.outcome, d.reason, d.matchedTokens)

/-- A confidence is known and its value lies below the floor. -/
def Murmured (floor : Confidence) (u : Utterance) : Prop := ∃ c ∈ u.meanConfidence, c.Below floor

namespace Policy

theorem isMurmur_iff (p : Policy) (u : Utterance) :
    p.isMurmur u.meanConfidence = true ↔ Murmured p.floor u := by
  unfold isMurmur Murmured
  cases u.meanConfidence with
  | none => simp
  | some c => simp [Binary.lt_iff_below]

theorem verdict_decide (p : Policy) (u : Utterance) :
    (p.decide u).verdict = p.ruling u.tokens u.meanConfidence := rfl

theorem ruling_of_quiet {p : Policy} (h : p.speaking = false) (tokens : List String)
    (confidence : Option Confidence) :
    p.ruling tokens confidence = (.speechRegistered, .notSpeaking, []) := by
  simp [ruling, h]

theorem ruling_of_murmur {p : Policy} (h : p.speaking = true) {u : Utterance}
    (hm : Murmured p.floor u) (tokens : List String) :
    p.ruling tokens u.meanConfidence = (.fillerIgnored, .lowConfidence, []) := by
  simp [ruling, h, (p.isMurmur_iff u).2 hm]

theorem ruling_of_clear {p : Policy} (h : p.speaking = true) {u : Utterance}
    (hm : ¬Murmured p.floor u) (tokens : List String) :
    p.ruling tokens u.meanConfidence = p.judge tokens := by
  have hf : p.isMurmur u.meanConfidence = false := by
    rw [Bool.eq_false_iff]
    exact fun ht => hm ((p.isMurmur_iff u).1 ht)
  simp [ruling, h, hf]

/-- A speaking policy judges the tokens of a plain text, which has no confidence. -/
theorem verdict_decide_ofText {p : Policy} (h : p.speaking = true) (text : String) :
    (p.decide (.ofText text)).verdict = p.judge (tokenize text) := by
  rw [verdict_decide, ruling_of_clear h]
  · rfl
  · rintro ⟨c, hc, -⟩
    simp [Utterance.ofText, Utterance.meanConfidence] at hc

theorem judge_of_hits {p : Policy} {tokens : List String} (h : p.stops.matchesIn tokens ≠ []) :
    p.judge tokens = (.validInterruption, .forceStopWord, p.stops.matchesIn tokens) := by
  unfold judge
  cases hm : p.stops.matchesIn tokens with
  | nil => exact absurd hm h
  | cons hit hits => rfl

theorem judge_of_filler {p : Policy} {tokens : List String} (h : p.stops.matchesIn tokens = [])
    (hu : p.fillers.uncovered tokens = []) :
    p.judge tokens = (.fillerIgnored, .allFiller, tokens) := by
  simp [judge, h, hu]

theorem judge_of_rest {p : Policy} {tokens : List String} (h : p.stops.matchesIn tokens = [])
    (hu : p.fillers.uncovered tokens ≠ []) :
    p.judge tokens = (.validInterruption, .mixedNonFiller, p.fillers.uncovered tokens) := by
  unfold judge
  rw [h]
  cases hm : p.fillers.uncovered tokens with
  | nil => exact absurd hm hu
  | cons t rest => rfl

/-- When a judgement interrupts, and when it gives each of its reasons. -/
theorem judge_iff (p : Policy) (tokens : List String) :
    ((p.judge tokens).1 = .validInterruption ↔
      p.stops.matchesIn tokens ≠ [] ∨ p.fillers.uncovered tokens ≠ []) ∧
    ((p.judge tokens).2.1 = .forceStopWord ↔ p.stops.matchesIn tokens ≠ []) ∧
    ((p.judge tokens).2.1 = .allFiller ↔
      p.stops.matchesIn tokens = [] ∧ p.fillers.uncovered tokens = []) ∧
    ((p.judge tokens).2.1 = .mixedNonFiller ↔
      p.stops.matchesIn tokens = [] ∧ p.fillers.uncovered tokens ≠ []) := by
  by_cases hm : p.stops.matchesIn tokens = []
  · by_cases hu : p.fillers.uncovered tokens = []
    · simp [judge_of_filler hm hu, hm, hu]
    · simp [judge_of_rest hm hu, hm, hu]
  · simp [judge_of_hits hm, hm]

/-- What is heard of the filler matters only where no stop entry is heard. -/
theorem judge_congr {p q : Policy} {tokens : List String}
    (hm : p.stops.matchesIn tokens = q.stops.matchesIn tokens)
    (hu : p.stops.matchesIn tokens = [] →
      p.fillers.uncovered tokens = q.fillers.uncovered tokens) :
    p.judge tokens = q.judge tokens := by
  by_cases h : p.stops.matchesIn tokens = []
  · unfold judge
    rw [← hm, hu h]
  · rw [judge_of_hits h, judge_of_hits (hm ▸ h), hm]

theorem decide_congr {p q : Policy} {u : Utterance} (hs : p.speaking = q.speaking)
    (hf : p.floor = q.floor) (hj : p.judge u.tokens = q.judge u.tokens) :
    p.decide u = q.decide u := by
  unfold decide ruling isMurmur
  rw [hs, hf, hj]

/-- What a decision names as decisive, by its reason. -/
def named (p : Policy) (tokens : List String) : Reason → List String
  | .notSpeaking | .lowConfidence => []
  | .forceStopWord => p.stops.matchesIn tokens
  | .allFiller => tokens
  | .mixedNonFiller => p.fillers.uncovered tokens

/-- The reason tells what was decisive, and what interrupts is named. -/
theorem matchedTokens_eq_named (p : Policy) (u : Utterance) :
    (p.decide u).matchedTokens = p.named u.tokens (p.decide u).reason ∧
    ((p.decide u).reason = .forceStopWord ∨ (p.decide u).reason = .mixedNonFiller →
      (p.decide u).matchedTokens ≠ []) := by
  have hmatched : (p.decide u).matchedTokens = (p.ruling u.tokens u.meanConfidence).2.2 := rfl
  have hreason : (p.decide u).reason = (p.ruling u.tokens u.meanConfidence).2.1 := rfl
  rw [hmatched, hreason]
  cases hs : p.speaking with
  | false =>
    rw [ruling_of_quiet hs]
    simp [named]
  | true =>
    by_cases hm : Murmured p.floor u
    · rw [ruling_of_murmur hs hm]
      simp [named]
    rw [ruling_of_clear hs hm]
    by_cases hhits : p.stops.matchesIn u.tokens = []
    · by_cases hrest : p.fillers.uncovered u.tokens = []
      · rw [judge_of_filler hhits hrest]
        simp [named]
      · rw [judge_of_rest hhits hrest]
        simp [named, hrest]
    · rw [judge_of_hits hhits]
      simp [named, hhits]

/-- The decision table.  A mean confidence that is unknown or not a number is below no floor. -/
theorem decide_table (speaking : Bool) (floor : Confidence) (fillers stops : List String)
    (u : Utterance) :
    let d := decide ⟨speaking, floor, .ofTexts fillers, .ofTexts stops⟩ u
    let allFiller := ∀ i, i < u.tokens.length → Spanned fillers u.tokens i
    (d.verdict = (.speechRegistered, .notSpeaking, []) ↔ speaking = false) ∧
    (d.verdict = (.fillerIgnored, .lowConfidence, []) ↔
      speaking = true ∧ Murmured floor u) ∧
    (d.outcome = .validInterruption ∧ d.reason = .forceStopWord ↔
      speaking = true ∧ ¬Murmured floor u ∧ Heard stops u.tokens) ∧
    (d.verdict = (.fillerIgnored, .allFiller, u.tokens) ↔
      speaking = true ∧ ¬Murmured floor u ∧ ¬Heard stops u.tokens ∧ allFiller) ∧
    (d.verdict = (.validInterruption, .mixedNonFiller, unspanned fillers u.tokens) ↔
      speaking = true ∧ ¬Murmured floor u ∧ ¬Heard stops u.tokens ∧ ¬allFiller) ∧
    (unspanned fillers u.tokens = [] ↔ allFiller) := by
  intro d allFiller
  have hrest : unspanned fillers u.tokens = [] ↔ allFiller := by
    rw [← Vocabulary.uncovered_ofTexts, Vocabulary.uncovered_ofTexts_eq_nil]
  have hverdict : d.verdict = (d.outcome, d.reason, d.matchedTokens) := rfl
  have hruling := verdict_decide ⟨speaking, floor, .ofTexts fillers, .ofTexts stops⟩ u
  rw [show decide _ u = d from rfl] at hruling
  -- one case for each row of the table; the verdict of a row refutes all the other rows
  cases speaking with
  | false =>
    rw [ruling_of_quiet rfl] at hruling
    rw [hverdict] at hruling ⊢
    simp_all
  | true =>
    by_cases hm : Murmured floor u
    · rw [ruling_of_murmur rfl hm] at hruling
      rw [hverdict] at hruling ⊢
      simp_all
    · rw [ruling_of_clear rfl hm] at hruling
      by_cases hh : Heard stops u.tokens
      · have hhits : (Vocabulary.ofTexts stops).matchesIn u.tokens ≠ [] :=
          fun h => Vocabulary.matchesIn_ofTexts_eq_nil.1 h hh
        rw [judge_of_hits hhits] at hruling
        rw [hverdict] at hruling ⊢
        simp_all
      · have hnone := Vocabulary.matchesIn_ofTexts_eq_nil.2 hh
        by_cases ha : allFiller
        · rw [judge_of_filler hnone (Vocabulary.uncovered_ofTexts_eq_nil.2 ha)] at hruling
          rw [hverdict] at hruling ⊢
          simp_all
        · have hne : (Vocabulary.ofTexts fillers).uncovered u.tokens ≠ [] :=
            fun h => ha (Vocabulary.uncovered_ofTexts_eq_nil.1 h)
          rw [judge_of_rest hnone hne, Vocabulary.uncovered_ofTexts] at hruling
          rw [hverdict] at hruling ⊢
          simp_all

end Policy

end BargeIn
