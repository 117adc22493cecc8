import Mathlib
import BargeIn.Proofs.Decision.Table
import BargeIn.Proofs.Vocabulary.Listing

/-!
# What the text of a decision tells

The text of a decision is its tokens with single spaces between them.  Wherever tokens come from,
none of them is empty or holds a space, so the text can be taken apart again; and what a decision
names as decisive is found again among the pieces, stop phrases as blocks of them
(`decide_recorded`).
-/

namespace BargeIn

open BargeIn.Number BargeIn.Text

/-- The pieces between the single spaces of a decision's text; there are none in an empty one. -/
def Decision.pieces (d : Decision) : List String :=
  if d.normalizedText = "" then [] else splitSpaces d.normalizedText

namespace Utterance

/-- The recognizer's tokens are tokenized as the text would be. -/
theorem exists_of_mem_tokens {u : Utterance} {w : String} (h : w ∈ u.tokens) :
    ∃ t, w ∈ tokenize t := by
  unfold tokens at h
  cases hheard : u.heardTokens with
  | none =>
    rw [hheard] at h
    exact ⟨u.text, h⟩
  | some heard =>
    rw [hheard] at h
    obtain ⟨t, -, ht⟩ := List.mem_flatMap.1 h
    exact ⟨t, ht⟩

theorem ne_empty_of_mem_tokens {u : Utterance} {w : String} (h : w ∈ u.tokens) : w ≠ "" := by
  obtain ⟨t, ht⟩ := exists_of_mem_tokens h
  exact ne_empty_of_mem_tokenize ht

theorem splitSpaces_joinTokens_tokens {u : Utterance} (h : u.tokens ≠ []) :
    splitSpaces (joinTokens u.tokens) = u.tokens := by
  refine splitSpaces_joinTokens (fun w hw => ?_) h
  obtain ⟨t, ht⟩ := exists_of_mem_tokens hw
  exact space_notMem_of_mem_tokenize ht

end Utterance

namespace Policy

theorem normalizedText_eq_empty (p : Policy) (u : Utterance) :
    (p.decide u).normalizedText = "" ↔ u.tokens = [] :=
  joinTokens_eq_empty fun _ => Utterance.ne_empty_of_mem_tokens

/-- The text of a decision keeps every token apart. -/
theorem pieces_decide (p : Policy) (u : Utterance) : (p.decide u).pieces = u.tokens := by
  unfold Decision.pieces
  by_cases h : u.tokens = []
  · rw [if_pos ((p.normalizedText_eq_empty u).2 h), h]
  · rw [if_neg (mt (p.normalizedText_eq_empty u).1 h)]
    exact Utterance.splitSpaces_joinTokens_tokens h

end Policy

/-- The name of what is found of configured texts is taken apart into a block of the tokens. -/
theorem Vocabulary.splitSpaces_of_mem_matchesIn {texts tokens : List String} {s : String}
    (h : s ∈ (ofTexts texts).matchesIn tokens) :
    splitSpaces s <:+: tokens ∧ ∃ t ∈ texts, tokenize t = splitSpaces s := by
  obtain ⟨e, he, -, hblock, rfl⟩ := mem_matchesIn.1 h
  obtain ⟨-, t, ht, htokens⟩ := mem_entries_ofTexts.1 he
  rw [splitSpaces_joinTokens_of_mem he]
  exact ⟨hblock, t, ht, htokens⟩

namespace Policy

/-- The text of a decision is a record of its tokens: taken apart at single spaces it gives them
back.  Stop entries that are named are blocks of the pieces, each named once; what is named as no
filler is a part of the pieces in their order; what is named as filler is all of them. -/
theorem decide_recorded (speaking : Bool) (floor : Confidence) (fillers stops : List String)
    (u : Utterance) :
    let d := decide ⟨speaking, floor, .ofTexts fillers, .ofTexts stops⟩ u
    (d.normalizedText = "" ↔ u.tokens = []) ∧
    (d.normalizedText ≠ "" → splitSpaces d.normalizedText = u.tokens) ∧
    d.pieces = u.tokens ∧ (∀ w ∈ d.pieces, w ≠ "") ∧
    (d.reason = .forceStopWord → d.matchedTokens ≠ [] ∧ d.matchedTokens.Nodup ∧
      ∀ s ∈ d.matchedTokens, splitSpaces s <:+: d.pieces ∧
        ∃ t ∈ stops, tokenize t = splitSpaces s) ∧
    (d.reason = .mixedNonFiller → d.matchedTokens ≠ [] ∧ d.matchedTokens.Sublist d.pieces) ∧
    (d.reason = .allFiller → d.matchedTokens = d.pieces) := by
  intro d
  have hpieces : d.pieces = u.tokens := pieces_decide _ u
  obtain ⟨hnamed, hinterrupts⟩ := matchedTokens_eq_named
    ⟨speaking, floor, .ofTexts fillers, .ofTexts stops⟩ u
  rw [show decide _ u = d from rfl] at hnamed hinterrupts
  rw [hpieces]
  refine ⟨normalizedText_eq_empty _ u, fun hne => ?_, rfl, ?_, ?_, ?_, ?_⟩
  · rw [← hpieces, Decision.pieces, if_neg hne]
  · exact fun w hw => Utterance.ne_empty_of_mem_tokens hw
  · intro hreason
    refine ⟨hinterrupts (.inl hreason), ?_⟩
    rw [hnamed, hreason]
    exact ⟨Vocabulary.nodup_matchesIn _ _, fun s => Vocabulary.splitSpaces_of_mem_matchesIn⟩
  · intro hreason
    refine ⟨hinterrupts (.inr hreason), ?_⟩
    rw [hnamed, hreason]
    exact Vocabulary.uncovered_sublist _ _
  · intro hreason
    rw [hnamed, hreason]
    rfl

end Policy

end BargeIn
