import Mathlib
import BargeIn.Proofs.Decision.Table
import BargeIn.Proofs.Text.Retokenize

/-!
# Utterances that are merged

A recognizer may end an utterance where the speaker only took a breath, or hear two utterances as
one.  Merging them loses no stop entry, and makes no word an interruption that was filler before
(`decide_merged`).  What the parts do not show is a stop phrase across the seam.
-/

namespace BargeIn.Policy

open BargeIn.Text

/-- Of a plain text the tokens decide, as long as the agent speaks. -/
theorem decide_ofText {p : Policy} (h : p.speaking = true) (text : String) :
    let d := p.decide (.ofText text)
    d.outcome = (p.judge (tokenize text)).1 ∧ d.reason = (p.judge (tokenize text)).2.1 ∧
      d.matchedTokens = (p.judge (tokenize text)).2.2 := by
  rw [← verdict_decide_ofText h text]
  exact ⟨rfl, rfl, rfl⟩

/-- A stop entry that is heard in a part is heard in the whole. -/
theorem judge_whole {p : Policy} {part whole : List String} (hpart : part <:+: whole)
    (h : (p.judge part).2.1 = .forceStopWord) :
    (p.judge whole).1 = .validInterruption ∧ (p.judge whole).2.1 = .forceStopWord ∧
      (p.judge part).2.2 ⊆ (p.judge whole).2.2 := by
  obtain ⟨-, hforced, -⟩ := p.judge_iff part
  have hhits := hforced.1 h
  have hsubset := p.stops.matchesIn_subset hpart
  have hwhole : p.stops.matchesIn whole ≠ [] := by
    intro hnil
    rw [hnil] at hsubset
    exact hhits (List.eq_nil_of_subset_nil hsubset)
  rw [judge_of_hits hhits, judge_of_hits hwhole]
  exact ⟨rfl, rfl, hsubset⟩

/-- What is no filler in the whole is none in one of its two parts. -/
theorem judge_parts {p : Policy} {front back : List String}
    (h : (p.judge (front ++ back)).2.1 = .mixedNonFiller) :
    (p.judge front).2.1 = .mixedNonFiller ∨ (p.judge back).2.1 = .mixedNonFiller := by
  obtain ⟨-, -, -, hmixed⟩ := p.judge_iff (front ++ back)
  obtain ⟨hwhole, hrest⟩ := hmixed.1 h
  have hsilent : ∀ {part}, part <:+: front ++ back → p.stops.matchesIn part = [] := by
    intro part hpart
    have hsubset := p.stops.matchesIn_subset hpart
    rw [hwhole] at hsubset
    exact List.eq_nil_of_subset_nil hsubset
  have hfront := hsilent (List.prefix_append front back).isInfix
  have hback := hsilent (List.suffix_append front back).isInfix
  obtain ⟨-, -, -, hmixed'⟩ := p.judge_iff front
  obtain ⟨-, -, -, hmixed''⟩ := p.judge_iff back
  rw [hmixed', hmixed'']
  by_cases hu : p.fillers.uncovered front = []
  · right
    exact ⟨hback, fun hnil => hrest (Vocabulary.uncovered_append_eq_nil hu hnil)⟩
  · left
    exact ⟨hfront, hu⟩

/-- Two fillers make a filler, unless a stop entry lies across the seam. -/
theorem judge_fillers {p : Policy} {front back : List String}
    (hfront : (p.judge front).2.1 = .allFiller) (hback : (p.judge back).2.1 = .allFiller) :
    (p.judge (front ++ back)).2.1 = .allFiller ∨
      (p.judge (front ++ back)).2.1 = .forceStopWord := by
  obtain ⟨-, -, hfiller, -⟩ := p.judge_iff front
  obtain ⟨-, -, hfiller', -⟩ := p.judge_iff back
  have hu := Vocabulary.uncovered_append_eq_nil (hfiller.1 hfront).2 (hfiller'.1 hback).2
  by_cases hm : p.stops.matchesIn (front ++ back) = []
  · left
    rw [judge_of_filler hm hu]
  · right
    rw [judge_of_hits hm]

/-- Two texts that are merged into one, for a speaking agent and with no confidence known.  A part
that interrupts by its stop entries makes the whole interrupt by them, and by more perhaps.  A whole
that interrupts without a stop entry has a part that does so; and two fillers make a filler, unless
a stop entry is heard in the whole. -/
theorem decide_merged {p : Policy} (hspeaking : p.speaking = true) (a b : String) {gap : String}
    (hgap : IsBreak gap.toList) :
    let d := p.decide (.ofText a)
    let e := p.decide (.ofText b)
    let m := p.decide (.ofText (a ++ gap ++ b))
    (d.reason = .forceStopWord → m.outcome = .validInterruption ∧ m.reason = .forceStopWord ∧
      d.matchedTokens ⊆ m.matchedTokens) ∧
    (e.reason = .forceStopWord → m.outcome = .validInterruption ∧ m.reason = .forceStopWord ∧
      e.matchedTokens ⊆ m.matchedTokens) ∧
    (m.reason = .mixedNonFiller → d.reason = .mixedNonFiller ∨ e.reason = .mixedNonFiller) ∧
    (d.reason = .allFiller → e.reason = .allFiller →
      m.reason = .allFiller ∨ m.reason = .forceStopWord) := by
  intro d e m
  obtain ⟨-, hd, hdmatched⟩ := decide_ofText hspeaking a
  obtain ⟨-, he, hematched⟩ := decide_ofText hspeaking b
  obtain ⟨houtcome, hm, hmatched⟩ := decide_ofText hspeaking (a ++ gap ++ b)
  rw [hgap.tokenize_append] at houtcome hm hmatched
  rw [show d.reason = _ from hd, show d.matchedTokens = _ from hdmatched,
    show e.reason = _ from he, show e.matchedTokens = _ from hematched,
    show m.outcome = _ from houtcome, show m.reason = _ from hm,
    show m.matchedTokens = _ from hmatched]
  exact ⟨judge_whole (List.prefix_append _ _).isInfix, judge_whole (List.suffix_append _ _).isInfix,
    judge_parts, judge_fillers⟩

/-- A stop word is heard on through a merger, and a stop phrase comes up at the seam of fillers. -/
theorem decide_merged_one_moment :
    let p : Policy :=
      ⟨true, .ofNat false 1, .ofTexts ["one", "moment"], .ofTexts ["One moment", "wait"]⟩
    p.speaking = true ∧ IsBreak ", ".toList ∧
    (p.decide (.ofText "WAIT one")).matchedTokens = ["wait"] ∧
    (p.decide (.ofText "one")).reason = .allFiller ∧
    (p.decide (.ofText "moment!")).reason = .allFiller ∧
    (p.decide (.ofText ("one" ++ ", " ++ "moment!"))).matchedTokens = ["one moment"] ∧
    (p.decide (.ofText ("WAIT one" ++ ", " ++ "moment!"))).reason = .forceStopWord ∧
    ["wait"] ⊆ (p.decide (.ofText ("WAIT one" ++ ", " ++ "moment!"))).matchedTokens := by
  intro p
  have hspeaking : p.speaking = true := rfl
  have hgap : IsBreak ", ".toList := ⟨by simp, by simp; decide +kernel⟩
  have hwait : (p.decide (.ofText "WAIT one")).matchedTokens = ["wait"] := by decide +kernel
  have hstop : (p.decide (.ofText "WAIT one")).reason = .forceStopWord := by decide +kernel
  obtain ⟨hfront, -, -, -⟩ := decide_merged hspeaking "WAIT one" "moment!" hgap
  obtain ⟨-, hreason, hsubset⟩ := hfront hstop
  exact ⟨hspeaking, hgap, hwait, by decide +kernel, by decide +kernel, by decide +kernel, hreason,
    hwait ▸ hsubset⟩

end BargeIn.Policy
