import Mathlib
import BargeIn.Proofs.Session.Answer
import BargeIn.Proofs.Text.Retokenize

/-!
# Entries recognise themselves

An entry is tokenized by the same rule as the speech it is meant to be found in, and a token ends at
a separator whatever stands on the other side.  So the tokens of an entry come out of any speech
that holds the entry between separators, capital letters, punctuation and final sigmas included.
A session therefore hears its stop entries in any surroundings, and takes for filler whatever is
strung together from filler entries (`classify_own_entries`).
-/

namespace BargeIn

open BargeIn.Text

namespace Text

/-! ## Texts between separators -/

/-- Any entries one after the other, with one separator or more between every two of them. -/
inductive Strung (entries : List String) : List Char → Prop
  | none : Strung entries []
  | last {w : String} : w ∈ entries → Strung entries w.toList
  | more {w : String} {gap rest : List Char} : w ∈ entries → gap ≠ [] →
      (∀ c ∈ gap, isSeparator c = true) → Strung entries rest →
      Strung entries (w.toList ++ (gap ++ rest))

/-- What is strung together from entries has the tokens of these entries, one after the other. -/
theorem Strung.exists_flatMap {entries : List String} {s : List Char} (h : Strung entries s) :
    ∃ ws : List String, (∀ w ∈ ws, w ∈ entries) ∧
      (tokensOf s).map String.ofList = ws.flatMap tokenize := by
  induction h with
  | none => exact ⟨[], by simp, rfl⟩
  | @last w hw => exact ⟨[w], by simpa using hw, by simp [tokenize]⟩
  | @more w gap rest hw hne hgap _ ih =>
    obtain ⟨ws, hws, he⟩ := ih
    refine ⟨w :: ws, ?_, ?_⟩
    · intro v hv
      rcases List.mem_cons.1 hv with rfl | hv
      · exact hw
      · exact hws v hv
    · rw [IsBreak.tokensOf_append ⟨hne, hgap⟩, List.map_append, he, List.flatMap_cons]
      rfl

/-- An entry between spaces keeps its tokens, whatever is said before and after it. -/
theorem tokenize_amid (a w b : String) :
    tokenize (a ++ " " ++ w ++ " " ++ b) = tokenize a ++ tokenize w ++ tokenize b := by
  rw [isBreak_space.tokenize_append, isBreak_space.tokenize_append]

/-- Tokens of entries one after the other all lie inside blocks of entries. -/
theorem spanned_flatMap {entries ws : List String} (hws : ∀ w ∈ ws, w ∈ entries) {i : Nat}
    (hi : i < (ws.flatMap tokenize).length) : Spanned entries (ws.flatMap tokenize) i := by
  induction ws generalizing i with
  | nil => simp at hi
  | cons w ws ih =>
    rw [List.flatMap_cons] at hi ⊢
    by_cases hw : i < (tokenize w).length
    · exact ⟨w, hws w List.mem_cons_self, 0, by omega, by omega, List.prefix_append _ _⟩
    · -- the place lies in the rest, where the same block is found further on
      obtain ⟨j, rfl⟩ := Nat.exists_eq_add_of_le (Nat.le_of_not_lt hw)
      rw [List.length_append] at hi
      obtain ⟨g, hg, hblock⟩ :=
        ih (fun v hv => hws v (List.mem_cons_of_mem _ hv)) (i := j) (by omega)
      exact ⟨g, hg, InBlock.append_left hblock⟩

end Text

/-! ## Sessions -/

namespace Policy

/-- Where no stop entry occurs, what is strung together from filler entries is filler. -/
theorem judge_of_strung {p : Policy} {texts : List String} {text : String}
    (hfillers : p.fillers = .ofTexts texts) (htext : Strung texts text.toList)
    (hstops : ∀ e ∈ p.stops.entries, ¬e <:+: tokenize text) :
    p.judge (tokenize text) = (.fillerIgnored, .allFiller, tokenize text) := by
  obtain ⟨ws, hws, htokens⟩ := htext.exists_flatMap
  apply judge_of_filler (Vocabulary.matchesIn_eq_nil hstops)
  rw [hfillers, Vocabulary.uncovered_ofTexts_eq_nil]
  intro i hi
  rw [show tokenize text = ws.flatMap tokenize from htokens] at hi ⊢
  exact spanned_flatMap hws hi

theorem judge_of_occurrence {p : Policy} {tokens e : List String} (he : e ∈ p.stops.entries)
    (hne : e ≠ []) (hi : e <:+: tokens) :
    joinTokens e ∈ p.stops.matchesIn tokens ∧
      p.judge tokens = (.validInterruption, .forceStopWord, p.stops.matchesIn tokens) := by
  have hmem : joinTokens e ∈ p.stops.matchesIn tokens :=
    Vocabulary.mem_matchesIn.2 ⟨e, he, hne, hi, rfl⟩
  exact ⟨hmem, judge_of_hits (List.ne_nil_of_mem hmem)⟩

end Policy

namespace Session

/-- While the agent speaks, a session hears each of its stop entries in any surroundings, and takes
for filler what is strung together from its filler entries, unless a stop entry occurs in it. -/
theorem classify_own_entries (s : Session) (hs : s.policy.speaking = true) (texts : List String) :
    (∀ w ∈ texts, tokenize w ≠ [] → ∀ a b : String, ∃ d,
      ((s.step (.setStops texts)).1.step
        (.classify (.ofText (a ++ " " ++ w ++ " " ++ b)))).2.decision = some d ∧
      d.outcome = .validInterruption ∧ d.reason = .forceStopWord ∧
      joinTokens (tokenize w) ∈ d.matchedTokens) ∧
    (∀ text : String, Strung texts text.toList → ∃ d,
      ((s.step (.setFillers texts)).1.step (.classify (.ofText text))).2.decision = some d ∧
      ((∀ e ∈ s.policy.stops.entries, ¬e <:+: tokenize text) →
        d.outcome = .fillerIgnored ∧ d.reason = .allFiller ∧ d.matchedTokens = tokenize text) ∧
      ((∃ e ∈ s.policy.stops.entries, e ≠ [] ∧ e <:+: tokenize text) →
        d.outcome = .validInterruption ∧ d.reason = .forceStopWord)) := by
  constructor
  · intro w hw hne a b
    let p : Policy := { s.policy with stops := .ofTexts texts }
    refine ⟨p.decide (.ofText (a ++ " " ++ w ++ " " ++ b)), rfl, ?_⟩
    have hverdict := p.verdict_decide_ofText hs (a ++ " " ++ w ++ " " ++ b)
    have hentry : tokenize w ∈ p.stops.entries :=
      Vocabulary.mem_entries_ofTexts.2 ⟨hne, w, hw, rfl⟩
    have hinfix : tokenize w <:+: tokenize (a ++ " " ++ w ++ " " ++ b) := by
      rw [tokenize_amid]
      exact ⟨tokenize a, tokenize b, rfl⟩
    obtain ⟨hmem, hjudge⟩ := Policy.judge_of_occurrence hentry hne hinfix
    rw [hjudge] at hverdict
    simp only [Decision.verdict, Prod.mk.injEq] at hverdict
    obtain ⟨ho, hr, hm⟩ := hverdict
    exact ⟨ho, hr, hm ▸ hmem⟩
  · intro text htext
    let p : Policy := { s.policy with fillers := .ofTexts texts }
    refine ⟨p.decide (.ofText text), rfl, ?_, ?_⟩
    · intro hstops
      have hverdict := p.verdict_decide_ofText hs text
      rw [Policy.judge_of_strung (p := p) rfl htext hstops] at hverdict
      simpa [Decision.verdict] using hverdict
    · rintro ⟨e, he, hne, hi⟩
      have hverdict := p.verdict_decide_ofText hs text
      rw [(Policy.judge_of_occurrence (p := p) he hne hi).2] at hverdict
      simp only [Decision.verdict, Prod.mk.injEq] at hverdict
      exact ⟨hverdict.1, hverdict.2.1⟩

/-- The standard session while its agent speaks. -/
def spoken : Session := ((new .standard .running).step .speakingStarted).1

/-- A phrase is heard in a sentence, and a repeated filler with a comma in it is ignored. -/
theorem classify_spoken : spoken.policy.speaking = true ∧
    (∃ d, ((spoken.step (.setStops ["Hold ON!"])).1.step
        (.classify
          (.ofText ("okay" ++ " " ++ "Hold ON!" ++ " " ++ "please")))).2.decision = some d ∧
      d.outcome = .validInterruption ∧ d.reason = .forceStopWord ∧
      joinTokens (tokenize "Hold ON!") ∈ d.matchedTokens) ∧
    ∃ d, ((spoken.step (.setFillers ["You know"])).1.step
        (.classify (.ofText "You know, You know"))).2.decision = some d ∧
      d.outcome = .fillerIgnored ∧ d.reason = .allFiller := by
  have hspeaking : spoken.policy.speaking = true := rfl
  obtain ⟨hstops, -⟩ := classify_own_entries spoken hspeaking ["Hold ON!"]
  obtain ⟨-, hfillers⟩ := classify_own_entries spoken hspeaking ["You know"]
  have hstrung : Strung ["You know"] "You know, You know".toList := by
    have hmem : "You know" ∈ ["You know"] := List.mem_singleton_self _
    have hcomma : isSeparator ',' = true := by decide +kernel
    have hgap : ∀ c ∈ [',', ' '], isSeparator c = true := by simp [hcomma, isSeparator_space]
    have hlist : "You know, You know".toList =
        "You know".toList ++ ([',', ' '] ++ "You know".toList) := by simp
    rw [hlist]
    exact .more hmem (by simp) hgap (.last hmem)
  refine ⟨hspeaking, hstops "Hold ON!" (by simp) (by decide +kernel) "okay" "please", ?_⟩
  obtain ⟨d, hd, hfiller, -⟩ := hfillers "You know, You know" hstrung
  obtain ⟨ho, hr, -⟩ := hfiller (by decide +kernel)
  exact ⟨d, hd, ho, hr⟩

end Session

end BargeIn
