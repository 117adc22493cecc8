import Mathlib
import BargeIn.Decision
import BargeIn.Proofs.Text.Retokenize

/-!
# How words are grouped

A recognizer reports what it heard as one text or as a list of pieces, and a piece may hold several
words, punctuation only, or nothing.  A token never reaches across a separator, so a decision is the
same for the pieces, for the text of the pieces with separators between them, and for every other
way to group the same pieces (`decide_grouped`).  A phrase is found across two pieces as it is found
inside one.
-/

namespace BargeIn

open BargeIn.Text

/-- Pieces that are put together by separators have the tokens that they have one by one. -/
theorem Text.IsBreak.tokenizeAll_intercalate {gap : String} (h : IsBreak gap.toList)
    (groups : List (List String)) :
    tokenizeAll (groups.map gap.intercalate) = tokenizeAll groups.flatten := by
  calc tokenizeAll (groups.map gap.intercalate)
      = groups.flatMap fun group => tokenize (gap.intercalate group) :=
        List.flatMap_map _ _ _
    _ = groups.flatMap tokenizeAll := by simp only [h.tokenize_intercalate]
    _ = tokenizeAll groups.flatten := by
        induction groups with
        | nil => rfl
        | cons group groups ih => simp [ih]

namespace Policy

/-- Utterances of the same tokens and mean confidence are told apart by nothing in the decision but
the utterance that it hands on. -/
theorem decide_of_tokens_eq (p : Policy) {u w : Utterance} (htokens : u.tokens = w.tokens)
    (hmean : u.meanConfidence = w.meanConfidence) :
    p.decide u = { p.decide w with utterance := u } := by
  unfold decide
  rw [htokens, hmean]

/-- Pieces and the text that separators make of them have the same tokens.  So a decision on the
pieces is the decision on that text, and the decision on the same pieces in any other grouping. -/
theorem decide_grouped (heard : List String) {gap : String} (hgap : IsBreak gap.toList) :
    tokenizeAll heard = tokenize (gap.intercalate heard) ∧
    ∀ (p : Policy) (confidence : Option Confidence) (words : List HeardWord),
      let u := { Utterance.ofTokens heard with confidence := confidence, words := words }
      let w := { Utterance.ofText (gap.intercalate heard) with
        confidence := confidence, words := words }
      p.decide u = { p.decide w with utterance := u } ∧
      ∀ groups : List (List String), groups.flatten = heard →
        let v := { Utterance.ofTokens (groups.map gap.intercalate) with
          confidence := confidence, words := words }
        p.decide v = { p.decide u with utterance := v } := by
  have htokens : tokenizeAll heard = tokenize (gap.intercalate heard) :=
    (hgap.tokenize_intercalate heard).symm
  refine ⟨htokens, fun p confidence words => ⟨?_, ?_⟩⟩
  · exact p.decide_of_tokens_eq htokens rfl
  · rintro groups rfl
    exact p.decide_of_tokens_eq (hgap.tokenizeAll_intercalate groups) rfl

/-- A stop phrase is heard across two pieces with a blank one between them. -/
theorem decide_grouped_hold_on :
    let p : Policy := ⟨true, .ofNat false 1, .ofTexts ["um"], .ofTexts ["Hold on!"]⟩
    let heard := ["Um... HOLD", "", "'on',"]
    let u := (Utterance.ofTokens heard).withWords [⟨"hold", .ofNat false 1⟩]
    let w := (Utterance.ofText (" -".intercalate heard)).withWords [⟨"hold", .ofNat false 1⟩]
    IsBreak " -".toList ∧ tokenize (" -".intercalate heard) = ["um", "hold", "on"] ∧
    p.decide u = { p.decide w with utterance := u } ∧
    (p.decide u).reason = .forceStopWord ∧ (p.decide u).matchedTokens = ["hold on"] := by
  intro p heard u w
  have hgap : IsBreak " -".toList := ⟨by simp, by simp; decide +kernel⟩
  obtain ⟨htokens, hdecide⟩ := decide_grouped heard hgap
  exact ⟨hgap, by decide +kernel, (hdecide p none _).1, by decide +kernel, by decide +kernel⟩

end Policy

end BargeIn
