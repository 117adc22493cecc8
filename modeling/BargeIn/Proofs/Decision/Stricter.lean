import Mathlib
import BargeIn.Settings
import BargeIn.Proofs.Decision.Table

/-!
# Stricter policies

A policy becomes stricter by stop entries that are added, by filler entries that are taken away and
by a lower floor.  Whatever stops the agent under a policy stops it under every stricter one, and if
a stop entry was the reason, it still is (`interrupts_of_stricter`).  The reason can change in one
direction only, when a stop entry is added that is heard in the utterance.
-/

namespace BargeIn

open BargeIn.Number BargeIn.Text

/-! ## Fewer entries -/

namespace Text

/-- Each of the texts that holds a token has a text of the same tokens among the others. -/
def Within (texts others : List String) : Prop :=
  ∀ f ∈ texts, tokenize f ≠ [] → ∃ g ∈ others, tokenize g = tokenize f

instance (texts others : List String) : Decidable (Within texts others) := by
  unfold Within
  infer_instance

variable {texts others tokens : List String} (h : Within texts others)

include h

theorem Within.heard (hheard : Heard texts tokens) : Heard others tokens := by
  obtain ⟨f, hf, hne, hi⟩ := hheard
  obtain ⟨g, hg, hgf⟩ := h f hf hne
  refine ⟨g, hg, ?_, ?_⟩
  · rwa [hgf]
  · rwa [hgf]

theorem Within.spanned {i : Nat} (hspanned : Spanned texts tokens i) : Spanned others tokens i := by
  obtain ⟨f, hf, hblock⟩ := hspanned
  obtain ⟨g, hg, hgf⟩ := h f hf (InBlock.ne_nil hblock)
  rw [← hgf] at hblock
  exact ⟨g, hg, hblock⟩

end Text

/-- What is clear enough for a floor is clear enough for a lower one. -/
theorem Murmured.of_atMost {floor lower : Confidence} {u : Utterance} (h : Murmured lower u)
    (hle : lower.AtMost floor) : Murmured floor u := by
  obtain ⟨c, hc, hbelow⟩ := h
  exact ⟨c, hc, hbelow.of_atMost hle⟩

/-! ## What interrupts -/

namespace Policy

/-- A clear utterance interrupts an agent that speaks if a stop entry is heard in it or something in
it is no filler; and it does so as a stop word in the first case only. -/
theorem interrupts_iff {p : Policy} {u : Utterance} :
    ((p.decide u).outcome = .validInterruption ↔ p.speaking = true ∧ ¬Murmured p.floor u ∧
      (p.stops.matchesIn u.tokens ≠ [] ∨ p.fillers.uncovered u.tokens ≠ [])) ∧
    ((p.decide u).reason = .forceStopWord ↔
      p.speaking = true ∧ ¬Murmured p.floor u ∧ p.stops.matchesIn u.tokens ≠ []) := by
  have houtcome : (p.decide u).outcome = (p.ruling u.tokens u.meanConfidence).1 := rfl
  have hreason : (p.decide u).reason = (p.ruling u.tokens u.meanConfidence).2.1 := rfl
  rw [houtcome, hreason]
  cases hs : p.speaking with
  | false => simp [ruling_of_quiet hs]
  | true =>
    by_cases hm : Murmured p.floor u
    · simp [ruling_of_murmur hs hm, hm]
    obtain ⟨hinterrupts, hforced, -⟩ := p.judge_iff u.tokens
    rw [ruling_of_clear hs hm, hinterrupts, hforced]
    simp [hm]

/-- An utterance that interrupts goes on interrupting when the floor is lowered, filler entries are
taken away and stop entries are added, and a stop entry that was the reason stays the reason. -/
theorem interrupts_of_stricter (speaking : Bool) {floor lower : Confidence}
    {fillers fewer stops more : List String} (hfloor : lower.AtMost floor)
    (hfillers : Within fewer fillers) (hstops : Within stops more) (u : Utterance)
    (h : (decide ⟨speaking, floor, .ofTexts fillers, .ofTexts stops⟩ u).outcome =
      .validInterruption) :
    (decide ⟨speaking, lower, .ofTexts fewer, .ofTexts more⟩ u).outcome = .validInterruption ∧
    ((decide ⟨speaking, floor, .ofTexts fillers, .ofTexts stops⟩ u).reason = .forceStopWord →
      (decide ⟨speaking, lower, .ofTexts fewer, .ofTexts more⟩ u).reason = .forceStopWord) := by
  rw [interrupts_iff.1] at h ⊢
  rw [interrupts_iff.2, interrupts_iff.2]
  obtain ⟨hspeaking, hclear, hleft⟩ := h
  have hclear' : ¬Murmured lower u := fun hm => hclear (hm.of_atMost hfloor)
  have hhits : (Vocabulary.ofTexts stops).matchesIn u.tokens ≠ [] →
      (Vocabulary.ofTexts more).matchesIn u.tokens ≠ [] := by
    intro hne hnil
    rw [Vocabulary.matchesIn_ofTexts_eq_nil] at hnil
    exact hne (Vocabulary.matchesIn_ofTexts_eq_nil.2 fun hheard => hnil (hstops.heard hheard))
  have hrest : (Vocabulary.ofTexts fillers).uncovered u.tokens ≠ [] →
      (Vocabulary.ofTexts fewer).uncovered u.tokens ≠ [] := by
    intro hne hnil
    rw [Vocabulary.uncovered_ofTexts_eq_nil] at hnil
    exact hne (Vocabulary.uncovered_ofTexts_eq_nil.2 fun i hi => hfillers.spanned (hnil i hi))
  exact ⟨⟨hspeaking, hclear', hleft.imp hhits hrest⟩, fun hreason =>
    ⟨hspeaking, hclear', hhits hreason.2.2⟩⟩

/-- One filler entry is taken away and the other spelt otherwise, the floor is lowered, and a stop
phrase is added, which becomes the reason. -/
theorem interrupts_uh_no :
    let u := (Utterance.ofText "uh, no way").withConfidence (.ofNat false 1)
    let d := decide ⟨true, .ofNat false 1, .ofTexts ["UH", "no"], .ofTexts ["stop"]⟩ u
    let e := decide ⟨true, Settings.defaultFloor, .ofTexts ["uh!"], .ofTexts ["Stop", "no way"]⟩ u
    d.outcome = .validInterruption ∧ d.reason = .mixedNonFiller ∧
    e.outcome = .validInterruption ∧ e.reason = .forceStopWord := by
  intro u d e
  have hfloor : Settings.defaultFloor.AtMost (.ofNat false 1) := by decide +kernel
  have hfillers : Within ["uh!"] ["UH", "no"] := by decide +kernel
  have hstops : Within ["stop"] ["Stop", "no way"] := by decide +kernel
  have houtcome : d.outcome = .validInterruption := by decide +kernel
  exact ⟨houtcome, by decide +kernel,
    (interrupts_of_stricter true hfloor hfillers hstops u houtcome).1, by decide +kernel⟩

end Policy

end BargeIn
