import Mathlib
import BargeIn.Proofs.Text.Retokenize
import BargeIn.Proofs.Vocabulary.Occurrence

/-!
# Vocabularies and their listings

A listing sorts the entries, and what a vocabulary finds does not depend on their order but for the
order of what it finds (`perm_matchesIn`).  A vocabulary of normalized texts has settled tokens and
can be made from its listing again (`Settled.perm_ofTexts_listing`).
-/

namespace BargeIn

open BargeIn.Text

/-! ## Ascending lists -/

theorem pairwise_sorted (l : List String) : (sorted l).Pairwise (· ≤ ·) := by
  have hany : l.Pairwise fun s t => id s = id t → True :=
    List.pairwise_of_forall fun _ _ _ => trivial
  exact (pairwise_sortBy id hany).imp ByKey.le

/-- The order of the entries does not matter to their listing. -/
theorem sorted_congr {l m : List String} (h : l.Perm m) : sorted l = sorted m := by
  have hperm : (sorted l).Perm (sorted m) := (perm_sorted l).trans (h.trans (perm_sorted m).symm)
  exact hperm.eq_of_pairwise (fun _ _ _ _ => le_antisymm) (pairwise_sorted l) (pairwise_sorted m)

namespace Vocabulary

/-! ## Entries in another order -/

section

variable {v w : Vocabulary} (h : v.entries.Perm w.entries)

include h

theorem perm_matchesIn (tokens : List String) : (v.matchesIn tokens).Perm (w.matchesIn tokens) := by
  rw [List.perm_ext_iff_of_nodup (nodup_matchesIn v tokens) (nodup_matchesIn w tokens)]
  intro s
  simp only [mem_matchesIn, h.mem_iff]

theorem uncovered_of_perm (tokens : List String) : v.uncovered tokens = w.uncovered tokens := by
  apply uncovered_congr
  intro i
  simp only [Covers, h.mem_iff]

theorem coverage_of_perm (tokens : List String) : v.coverage tokens = w.coverage tokens := by
  apply coverage_congr
  intro i
  simp only [Covers, h.mem_iff]

theorem listing_of_perm : v.listing = w.listing := sorted_congr (h.map joinTokens)

end

/-! ## Entries and their texts -/

/-- An entry of configured texts comes back from the text that it is listed as. -/
theorem splitSpaces_joinTokens_of_mem {texts e : List String} (he : e ∈ (ofTexts texts).entries) :
    splitSpaces (joinTokens e) = e := by
  obtain ⟨hne, t, -, rfl⟩ := mem_entries_ofTexts.1 he
  exact splitSpaces_joinTokens (fun _ => space_notMem_of_mem_tokenize) hne

theorem joinTokens_injOn_entries {texts e f : List String} (he : e ∈ (ofTexts texts).entries)
    (hf : f ∈ (ofTexts texts).entries) (h : joinTokens e = joinTokens f) : e = f := by
  rw [← splitSpaces_joinTokens_of_mem he, ← splitSpaces_joinTokens_of_mem hf, h]

/-! ## Settled vocabularies -/

/-- Every entry holds a token, and every token is its own only token. -/
def Settled (v : Vocabulary) : Prop := ∀ e ∈ v.entries, e ≠ [] ∧ ∀ w ∈ e, tokenize w = [w]

theorem settled_ofTexts {texts : List String} (h : ∀ t ∈ texts, ¬Dotted t) :
    (ofTexts texts).Settled := by
  intro e he
  obtain ⟨hne, t, ht, rfl⟩ := mem_entries_ofTexts.1 he
  exact ⟨hne, fun w hw => tokenize_of_mem_tokenize (h t ht) hw⟩

theorem nodup_entries_ofTexts (texts : List String) : (ofTexts texts).entries.Nodup :=
  nodup_firstSeen _

/-- A settled entry is the tokens of the text that it is listed as. -/
theorem Settled.tokenize_joinTokens {v : Vocabulary} (h : v.Settled) {e : List String}
    (he : e ∈ v.entries) : tokenize (joinTokens e) = e :=
  tokenize_joinTokens_of_settled (h e he).2

theorem Settled.not_dotted_of_mem_listing {v : Vocabulary} (h : v.Settled) {t : String}
    (ht : t ∈ v.listing) : ¬Dotted t := by
  obtain ⟨e, he, rfl⟩ := List.mem_map.1 ((perm_sorted _).mem_iff.1 ht)
  apply not_dotted_joinTokens
  intro w hw
  have hself : w ∈ tokenize w := by
    rw [(h e he).2 w hw]
    exact List.mem_singleton_self w
  exact not_dotted_of_mem_tokenize hself

/-- The vocabulary of a settled vocabulary's listing has the same entries. -/
theorem Settled.perm_ofTexts_listing {v : Vocabulary} (h : v.Settled) (hnodup : v.entries.Nodup) :
    (ofTexts v.listing).entries.Perm v.entries := by
  have htokens : (v.listing.map tokenize).Perm v.entries := by
    have hback : (v.entries.map joinTokens).map tokenize = v.entries := by
      rw [List.map_map]
      conv => rhs; rw [← List.map_id v.entries]
      exact List.map_congr_left fun e he => h.tokenize_joinTokens he
    have hperm := (perm_sorted (v.entries.map joinTokens)).map tokenize
    rwa [hback] at hperm
  -- nothing is dropped: no entry is blank, none is repeated
  have hkeep : (v.listing.map tokenize).filter (· ≠ []) = v.listing.map tokenize := by
    rw [List.filter_eq_self]
    intro e he
    simpa using (h e (htokens.mem_iff.1 he)).1
  unfold ofTexts
  rw [hkeep, firstSeen_of_nodup (htokens.nodup_iff.2 hnodup)]
  exact htokens

end Vocabulary

end BargeIn
