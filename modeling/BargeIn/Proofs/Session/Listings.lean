import Mathlib
import BargeIn.Proofs.Session.LastWrites
import BargeIn.Proofs.Settings.Normalize
import BargeIn.Proofs.Vocabulary.Listing

/-!
# Listings are faithful

A list of entries can be normalized as texts, or made a vocabulary and listed.  Both give the same
texts: entries that differ as lists of tokens differ as texts, since no token is empty or holds a
space.  For the same reason a listing tells vocabularies apart, up to the order of their phrases,
and in what a session tells of its vocabularies no entry is lost, merged with another or repeated
(`listings_faithful`).
-/

namespace BargeIn

open BargeIn.Text

/-! ## Words and phrases -/

namespace Vocabulary

/-- Entries are words or phrases. -/
theorem perm_words_phrases {v : Vocabulary} (h : ∀ e ∈ v.entries, e ≠ []) :
    v.entries.Perm (v.words.map (fun t => [t]) ++ v.phrases) := by
  obtain ⟨entries⟩ := v
  unfold words phrases
  dsimp only at h ⊢
  induction entries with
  | nil => exact .refl _
  | cons e rest ih =>
    have hrest := ih fun f hf => h f (List.mem_cons_of_mem e hf)
    match e with
    | [] => exact absurd rfl (h [] List.mem_cons_self)
    | [t] => simpa using hrest
    | t :: u :: more =>
      simp only [List.filterMap_cons, List.filter_cons, List.length_cons]
      exact (hrest.cons _).trans List.perm_middle.symm

section

variable (texts others : List String)

theorem ne_nil_of_mem_entries_ofTexts : ∀ e ∈ (ofTexts texts).entries, e ≠ [] :=
  fun _ he => (mem_entries_ofTexts.1 he).1

theorem size_ofTexts :
    (ofTexts texts).size = (ofTexts texts).words.length + (ofTexts texts).phrases.length := by
  have hperm := perm_words_phrases (ne_nil_of_mem_entries_ofTexts texts)
  rw [size, hperm.length_eq, List.length_append, List.length_map]

/-- Vocabularies with the same words and the same phrases have the same entries. -/
theorem perm_entries_iff : (ofTexts texts).entries.Perm (ofTexts others).entries ↔
    (∀ t, t ∈ (ofTexts texts).words ↔ t ∈ (ofTexts others).words) ∧
    (ofTexts texts).phrases.Perm (ofTexts others).phrases := by
  constructor
  · intro h
    refine ⟨fun t => ?_, h.filter _⟩
    rw [mem_words, mem_words, h.mem_iff]
  · rintro ⟨hwords, hphrases⟩
    rw [List.perm_ext_iff_of_nodup (nodup_entries_ofTexts texts) (nodup_entries_ofTexts others)]
    intro e
    rw [(perm_words_phrases (ne_nil_of_mem_entries_ofTexts texts)).mem_iff,
      (perm_words_phrases (ne_nil_of_mem_entries_ofTexts others)).mem_iff]
    simp only [List.mem_append, List.mem_map, hwords, hphrases.mem_iff]

/-! ## Listings -/

/-- Normalizing a list of texts is making a vocabulary of them and joining its entries. -/
theorem normalizeList_eq_map :
    Settings.normalizeList texts = (ofTexts texts).entries.map joinTokens := by
  have hfilter : (texts.map fun t => joinTokens (tokenize t)).filter (· ≠ "") =
      ((texts.map tokenize).filter (· ≠ [])).map joinTokens := by
    have hmap : (texts.map fun t => joinTokens (tokenize t)) =
        (texts.map tokenize).map joinTokens := by
      rw [List.map_map]
      rfl
    rw [hmap, List.filter_map]
    congr 1
    refine List.filter_congr fun e he => ?_
    -- what is joined is blank only where there are no tokens
    obtain ⟨t, -, rfl⟩ := List.mem_map.1 he
    have hblank := joinTokens_eq_empty fun w (hw : w ∈ tokenize t) => ne_empty_of_mem_tokenize hw
    simp [hblank]
  unfold Settings.normalizeList
  rw [hfilter]
  refine firstSeen_map fun e he f hf => ?_
  exact joinTokens_injOn_entries (mem_firstSeen.2 he) (mem_firstSeen.2 hf)

/-- A list of texts, ascending and without repetition, that are the entries once they are split. -/
structure IsListing (v : Vocabulary) (l : List String) : Prop where
  ascending : l.Pairwise (· < ·)
  entries : (l.map splitSpaces).Perm v.entries

theorem isListing_listing : (ofTexts texts).IsListing (ofTexts texts).listing := by
  have hperm := perm_sorted ((ofTexts texts).entries.map joinTokens)
  refine ⟨?_, ?_⟩
  · -- different entries have different texts, so none of them stands there twice
    have hnodup : ((ofTexts texts).entries.map joinTokens).Nodup :=
      (nodup_entries_ofTexts texts).map_on fun _ he _ hf => joinTokens_injOn_entries he hf
    have hlisting : (ofTexts texts).listing.Nodup := hperm.nodup_iff.2 hnodup
    refine (List.Pairwise.and (pairwise_sorted _) hlisting).imp ?_
    rintro s t ⟨hle, hne⟩
    exact lt_of_le_of_ne hle hne
  · have hback : ((ofTexts texts).entries.map joinTokens).map splitSpaces =
        (ofTexts texts).entries := by
      rw [List.map_map]
      conv => rhs; rw [← List.map_id (ofTexts texts).entries]
      exact List.map_congr_left fun e he => splitSpaces_joinTokens_of_mem he
    have hsplit := hperm.map splitSpaces
    rwa [hback] at hsplit

/-- A listing tells the entries, but not their order. -/
theorem listing_eq_iff : (ofTexts texts).listing = (ofTexts others).listing ↔
    (ofTexts texts).entries.Perm (ofTexts others).entries := by
  constructor
  · intro h
    have hsplit := (isListing_listing texts).entries
    rw [h] at hsplit
    exact hsplit.symm.trans (isListing_listing others).entries
  · exact listing_of_perm

end

end Vocabulary

/-! ## Sessions -/

namespace Policy

/-- Whatever was written last was made of texts. -/
theorem isListing_lastWritten (c : Settings) (steps : List Step) :
    let p := lastWritten c steps
    p.fillers.IsListing p.fillers.listing ∧ p.stops.IsListing p.stops.listing := by
  let Listed (v : Vocabulary) := v.IsListing v.listing
  have hstart : ∀ texts, Listed (.ofTexts (Settings.normalizeList texts)) :=
    fun texts => Vocabulary.isListing_listing (Settings.normalizeList texts)
  constructor
  · refine lastWrite_of_forall (P := Listed) (hstart c.fillers) ?_ steps
    intro x v hx
    cases x with
    | setFillers texts => exact Option.some.inj hx ▸ Vocabulary.isListing_listing texts
    | configure d => exact Option.some.inj hx ▸ hstart d.fillers
    | _ => cases hx
  · refine lastWrite_of_forall (P := Listed) (hstart c.stops) ?_ steps
    intro x v hx
    cases x with
    | setStops texts => exact Option.some.inj hx ▸ Vocabulary.isListing_listing texts
    | configure d => exact Option.some.inj hx ▸ hstart d.stops
    | _ => cases hx

end Policy

namespace Session

/-- A listing is the normalized list in strictly ascending order and as long as its vocabulary is
large.  Two listings are equal just when the words are the same and the phrases are so but for their
order; and the settings of a session, after any steps, list each entry of its vocabularies once. -/
theorem listings_faithful (texts others : List String) (c : Settings) (executor : Executor)
    (steps : List Step) :
    let v := Vocabulary.ofTexts texts
    let w := Vocabulary.ofTexts others
    let s := (new c executor).after steps
    v.listing.Pairwise (· < ·) ∧ v.listing.Perm (Settings.normalizeList texts) ∧
    v.listing.length = v.size ∧ v.size = v.words.length + v.phrases.length ∧
    (v.listing = w.listing ↔
      (∀ t, t ∈ v.words ↔ t ∈ w.words) ∧ v.phrases.Perm w.phrases) ∧
    s.policy.fillers.IsListing s.settings.fillers ∧
    s.policy.stops.IsListing s.settings.stops := by
  intro v w s
  have hlisting : v.IsListing v.listing := Vocabulary.isListing_listing texts
  have hnormalized : v.listing.Perm (Settings.normalizeList texts) := by
    rw [Vocabulary.normalizeList_eq_map]
    exact perm_sorted _
  have hlength : v.listing.length = v.size := by
    have hentries := hlisting.entries.length_eq
    rwa [List.length_map] at hentries
  refine ⟨hlisting.ascending, hnormalized, hlength, Vocabulary.size_ofTexts texts, ?_, ?_⟩
  · rw [← Vocabulary.perm_entries_iff]
    exact Vocabulary.listing_eq_iff texts others
  · have hlast := Policy.isListing_lastWritten c steps
    rw [← policy_after c executor steps] at hlast
    exact hlast

end Session

end BargeIn
