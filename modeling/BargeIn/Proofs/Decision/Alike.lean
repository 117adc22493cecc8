import Mathlib
import BargeIn.Proofs.Decision.Stricter
import BargeIn.Proofs.Vocabulary.FirstPlace

/-!
# The same entries in another list

A vocabulary is a set.  The same entries can be listed in another order or more than once, spelt in
other capitals and with other punctuation, and with blanks among them, and what is covered and what
is decided stays the same (`decide_relisted`).  All that a listing has a say in is the order in
which stop entries are named that first begin at one token: phrases come as they are listed there.
-/

namespace BargeIn

open BargeIn.Text

/-! ## Entries in another order -/

/-- Decisions that differ at most in the utterance and in the order of the tokens that decided. -/
structure Decision.Alike (d e : Decision) : Prop where
  outcome : d.outcome = e.outcome
  reason : d.reason = e.reason
  normalizedText : d.normalizedText = e.normalizedText
  confidence : d.confidence = e.confidence
  matchedTokens : d.matchedTokens.Perm e.matchedTokens

namespace Policy

/-- Policies that differ at most in the order of their entries. -/
structure Alike (p q : Policy) : Prop where
  speaking : p.speaking = q.speaking
  floor : p.floor = q.floor
  fillers : p.fillers.entries.Perm q.fillers.entries
  stops : p.stops.entries.Perm q.stops.entries

variable {p q : Policy} (h : p.Alike q)

include h

theorem Alike.judge (tokens : List String) : (p.judge tokens).1 = (q.judge tokens).1 ∧
    (p.judge tokens).2.1 = (q.judge tokens).2.1 ∧
    (p.judge tokens).2.2.Perm (q.judge tokens).2.2 := by
  have hmatches := Vocabulary.perm_matchesIn h.stops tokens
  have huncovered := Vocabulary.uncovered_of_perm h.fillers tokens
  by_cases hm : p.stops.matchesIn tokens = []
  · -- no stop entry is heard by either, and the filler covers the same places
    have hm' : q.stops.matchesIn tokens = [] := by
      rw [hm] at hmatches
      exact hmatches.nil_eq.symm
    by_cases hu : p.fillers.uncovered tokens = []
    · rw [judge_of_filler hm hu, judge_of_filler hm' (huncovered ▸ hu)]
      exact ⟨rfl, rfl, .refl _⟩
    · rw [judge_of_rest hm hu, judge_of_rest hm' (huncovered ▸ hu), huncovered]
      exact ⟨rfl, rfl, .refl _⟩
  · have hm' : q.stops.matchesIn tokens ≠ [] := by
      intro hnil
      rw [hnil] at hmatches
      exact hm hmatches.eq_nil
    rw [judge_of_hits hm, judge_of_hits hm']
    exact ⟨rfl, rfl, hmatches⟩

theorem Alike.ruling (tokens : List String) (confidence : Option Confidence) :
    (p.ruling tokens confidence).1 = (q.ruling tokens confidence).1 ∧
    (p.ruling tokens confidence).2.1 = (q.ruling tokens confidence).2.1 ∧
    (p.ruling tokens confidence).2.2.Perm (q.ruling tokens confidence).2.2 := by
  have hmurmur : p.isMurmur confidence = q.isMurmur confidence := by
    unfold isMurmur
    rw [h.floor]
  unfold Policy.ruling
  rw [h.speaking, hmurmur]
  split
  · exact ⟨rfl, rfl, .refl _⟩
  · split
    · exact ⟨rfl, rfl, .refl _⟩
    · exact h.judge tokens

theorem Alike.decide (u : Utterance) : (p.decide u).Alike (q.decide u) := by
  obtain ⟨houtcome, hreason, hmatched⟩ := h.ruling u.tokens u.meanConfidence
  exact
    { outcome := houtcome
      reason := hreason
      normalizedText := rfl
      confidence := rfl
      matchedTokens := hmatched }

end Policy

/-! ## Ties -/

namespace Text

/-- The same entries named from the same places on: only those that begin at one place may have
changed their order. -/
def SameButTies (tokens named others : List String) : Prop :=
  ∃ found again : List (List String), named = found.map joinTokens ∧
    others = again.map joinTokens ∧ found.Perm again ∧
    (∀ e ∈ found, e ≠ [] ∧ IsLeast {k | e <+: tokens.drop k} (firstPlace e tokens)) ∧
    found.map (firstPlace · tokens) = again.map (firstPlace · tokens)

theorem Precedes.firstPlace_le {R : List String → List String → Prop} {tokens e f : List String}
    (h : Precedes R tokens e f) : firstPlace e tokens ≤ firstPlace f tokens := by
  rcases h with hlt | ⟨heq, -⟩
  · omega
  · omega

end Text

namespace Vocabulary

/-- What is found comes by the places from which it is found on. -/
theorem pairwise_firstPlace_le (v : Vocabulary) (tokens : List String) :
    ((v.found tokens).map (firstPlace · tokens)).Pairwise (· ≤ ·) := by
  have hany : v.entries.Pairwise fun _ _ => True := List.pairwise_of_forall fun _ _ => trivial
  rw [List.pairwise_map]
  exact (pairwise_found hany tokens).imp Precedes.firstPlace_le

section

variable {texts others : List String}

theorem sameButTies_matchesIn (h : (ofTexts texts).entries.Perm (ofTexts others).entries)
    (tokens : List String) :
    SameButTies tokens ((ofTexts texts).matchesIn tokens) ((ofTexts others).matchesIn tokens) := by
  have hperm : ((ofTexts texts).found tokens).Perm ((ofTexts others).found tokens) := by
    rw [List.perm_ext_iff_of_nodup (nodup_found _ tokens) (nodup_found _ tokens)]
    intro e
    rw [mem_found, mem_found, h.mem_iff]
  refine ⟨_, _, matchesIn_eq_map texts tokens, matchesIn_eq_map others tokens, hperm, ?_, ?_⟩
  · intro e he
    obtain ⟨-, hne, hinfix⟩ := mem_found.1 he
    exact ⟨hne, isLeast_firstPlace hinfix⟩
  · -- two ascending lists of the same places are one
    have hplaces := hperm.map (firstPlace · tokens)
    exact hplaces.eq_of_pairwise (fun _ _ _ _ => Nat.le_antisymm)
      (pairwise_firstPlace_le _ tokens) (pairwise_firstPlace_le _ tokens)

theorem mem_entries_of_within {e : List String} (h : Within texts others)
    (he : e ∈ (ofTexts texts).entries) : e ∈ (ofTexts others).entries := by
  obtain ⟨hne, t, ht, rfl⟩ := mem_entries_ofTexts.1 he
  obtain ⟨g, hg, hgt⟩ := h t ht hne
  exact mem_entries_ofTexts.2 ⟨hne, g, hg, hgt⟩

theorem perm_entries_of_within (h : Within texts others) (h' : Within others texts) :
    (ofTexts texts).entries.Perm (ofTexts others).entries := by
  rw [List.perm_ext_iff_of_nodup (nodup_entries_ofTexts texts) (nodup_entries_ofTexts others)]
  intro e
  exact ⟨mem_entries_of_within h, mem_entries_of_within h'⟩

end

end Vocabulary

namespace Policy

open Vocabulary

/-- A policy may change the list of its stop entries for one of the same entries. -/
theorem decide_restopped (p : Policy) {texts others : List String}
    (h : (ofTexts texts).entries.Perm (ofTexts others).entries) (u : Utterance) :
    let d := decide { p with stops := ofTexts texts } u
    let e := decide { p with stops := ofTexts others } u
    d.Alike e ∧ (d.reason ≠ .forceStopWord → d.matchedTokens = e.matchedTokens) ∧
    (d.reason = .forceStopWord → SameButTies u.tokens d.matchedTokens e.matchedTokens) := by
  intro d e
  have halike : Policy.Alike { p with stops := ofTexts texts } { p with stops := ofTexts others } :=
    ⟨rfl, rfl, .refl _, h⟩
  have hd := (matchedTokens_eq_named { p with stops := ofTexts texts } u).1
  have he := (matchedTokens_eq_named { p with stops := ofTexts others } u).1
  rw [show decide _ u = d from rfl] at hd
  rw [show decide _ u = e from rfl, ← show d.reason = e.reason from (halike.decide u).reason] at he
  refine ⟨halike.decide u, fun hreason => ?_, fun hreason => ?_⟩
  · rw [hd, he]
    -- every other reason names what has nothing to do with stop entries
    cases hr : d.reason with
    | forceStopWord => exact absurd hr hreason
    | _ => rfl
  · rw [hd, he, hreason]
    exact sameButTies_matchesIn h u.tokens

/-- Two lists of the same entries cover the same tokens and find the same in them.  As filler lists
they lead to the same decisions, as lists of stop entries to decisions that are the same but for the
order in which they name stop entries that first begin at one token. -/
theorem decide_relisted {texts others : List String} (h : Within texts others)
    (h' : Within others texts) :
    (∀ tokens, (ofTexts texts).coverage tokens = (ofTexts others).coverage tokens ∧
      ((ofTexts texts).matchesIn tokens).Perm ((ofTexts others).matchesIn tokens) ∧
      SameButTies tokens ((ofTexts texts).matchesIn tokens) ((ofTexts others).matchesIn tokens)) ∧
    ∀ (p : Policy) (u : Utterance),
      decide { p with fillers := ofTexts texts } u = decide { p with fillers := ofTexts others } u ∧
      let d := decide { p with stops := ofTexts texts } u
      let e := decide { p with stops := ofTexts others } u
      d.outcome = e.outcome ∧ d.reason = e.reason ∧ d.normalizedText = e.normalizedText ∧
      d.confidence = e.confidence ∧
      (d.reason ≠ .forceStopWord → d.matchedTokens = e.matchedTokens) ∧
      (d.reason = .forceStopWord → SameButTies u.tokens d.matchedTokens e.matchedTokens) := by
  have hperm := perm_entries_of_within h h'
  refine ⟨fun tokens => ?_, fun p u => ⟨?_, ?_⟩⟩
  · exact ⟨coverage_of_perm hperm tokens, perm_matchesIn hperm tokens,
      sameButTies_matchesIn hperm tokens⟩
  · refine decide_congr rfl rfl (judge_congr rfl fun _ => ?_)
    exact uncovered_of_perm hperm u.tokens
  · intro d e
    obtain ⟨halike, hother, hforced⟩ := p.decide_restopped hperm u
    exact ⟨halike.outcome, halike.reason, halike.normalizedText, halike.confidence, hother, hforced⟩

/-- Stop entries in another order, in capitals, with a hyphen, a blank and a repetition: the two
phrases change places, since both begin where the word does. -/
theorem decide_relisted_hold_on :
    let texts := ["hold on", "hold on now", "hold"]
    let others := ["Hold!", "", "HOLD on, now", "hold-on", "hold"]
    let p : Policy := ⟨true, .ofNat false 1, .ofTexts ["um"], .ofTexts []⟩
    let u := Utterance.ofText "um, hold on now"
    let d := decide { p with stops := ofTexts texts } u
    let e := decide { p with stops := ofTexts others } u
    Within texts others ∧ Within others texts ∧ d.reason = e.reason ∧ d.reason = .forceStopWord ∧
    d.matchedTokens = ["hold", "hold on", "hold on now"] ∧
    e.matchedTokens = ["hold", "hold on now", "hold on"] ∧
    SameButTies u.tokens d.matchedTokens e.matchedTokens := by
  intro texts others p u d e
  have hwithin : Within texts others := by decide +kernel
  have hwithin' : Within others texts := by decide +kernel
  have hreason : d.reason = .forceStopWord := by decide +kernel
  obtain ⟨-, hdecide⟩ := decide_relisted hwithin hwithin'
  obtain ⟨-, -, hsame, -, -, -, hforced⟩ := hdecide p u
  exact ⟨hwithin, hwithin', hsame, hreason, by decide +kernel, by decide +kernel, hforced hreason⟩

end Policy

end BargeIn
