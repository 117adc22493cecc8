import Mathlib
import BargeIn.Proofs.Vocabulary.Listing

/-!
# The order of what is found

An entry may occur at many places, and `matchesIn` names it once.  Entries come by the first place
where they begin; of those that first begin at the same place, the word comes before the phrases,
and the phrases come as they were configured (`matchesIn_ofTexts`).  An entry is named by its joined
text, which tells it from all others, since no token holds a space.
-/

namespace BargeIn.Text

/-- Configured before: the first text of the tokens `e` stands before the first one of `f`. -/
def Earlier (texts : List String) (e f : List String) : Prop :=
  (texts.map tokenize).idxOf e < (texts.map tokenize).idxOf f

end BargeIn.Text

namespace BargeIn.Vocabulary

open BargeIn.Text

/-! ## Entries in order -/

theorem pairwise_entries_ofTexts (texts : List String) :
    (ofTexts texts).entries.Pairwise (Earlier texts) := by
  unfold ofTexts
  rw [← filter_firstSeen]
  exact List.Pairwise.filter _ (pairwise_firstSeen (texts.map tokenize))

/-- Every entry that is found is named by a text of its own. -/
theorem matchesIn_eq_map (texts tokens : List String) :
    (ofTexts texts).matchesIn tokens = ((ofTexts texts).found tokens).map joinTokens := by
  rw [matchesIn_eq_firstSeen, firstSeen_map, firstSeen_of_nodup (nodup_found _ tokens)]
  intro e he f hf
  exact joinTokens_injOn_entries (mem_found.1 he).1 (mem_found.1 hf).1

/-- The found entries are those whose tokens stand in the list as a block, each once and named by
its own joined text.  They come by the least place of such a block; at one place the word comes
before the phrases, and phrases come as they were first configured. -/
theorem matchesIn_ofTexts (texts tokens : List String) :
    ∃ found : List (List String),
      (ofTexts texts).matchesIn tokens = found.map joinTokens ∧
      found.Nodup ∧ (found.map joinTokens).Nodup ∧
      (∀ e, e ∈ found ↔ e ≠ [] ∧ (∃ t ∈ texts, tokenize t = e) ∧ e <:+: tokens) ∧
      (∀ e ∈ found, IsLeast {k | e <+: tokens.drop k} (firstPlace e tokens)) ∧
      found.Pairwise (Precedes (Earlier texts) tokens) := by
  have hmatches := matchesIn_eq_map texts tokens
  have hmem : ∀ e, e ∈ (ofTexts texts).found tokens ↔
      e ≠ [] ∧ (∃ t ∈ texts, tokenize t = e) ∧ e <:+: tokens := by
    intro e
    rw [mem_found, mem_entries_ofTexts]
    constructor
    · rintro ⟨⟨hne, htext⟩, -, hinfix⟩
      exact ⟨hne, htext, hinfix⟩
    · rintro ⟨hne, htext, hinfix⟩
      exact ⟨⟨hne, htext⟩, hne, hinfix⟩
  refine ⟨(ofTexts texts).found tokens, hmatches, nodup_found _ tokens, ?_, hmem, ?_, ?_⟩
  · rw [← hmatches]
    exact nodup_matchesIn _ tokens
  · intro e he
    exact isLeast_firstPlace ((hmem e).1 he).2.2
  · exact pairwise_found (pairwise_entries_ofTexts texts) tokens

/-- The word of a place comes first, the phrases as configured, and the repeated word once. -/
example : (ofTexts ["hold on now", "Now!", "HOLD ON", "hold"]).matchesIn
    ["please", "hold", "on", "now", "hold"] = ["hold", "hold on now", "hold on", "now"] := by
  decide +kernel

end BargeIn.Vocabulary
