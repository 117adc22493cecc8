import Mathlib
import BargeIn.Proofs.Session.Answer
import BargeIn.Proofs.Settings.Normalize

/-!
# Two ways to install vocabularies

New settings can be given to a session as a whole, which normalizes their lists first, or list by
list, which does not.  The two agree on everything that is ever answered exactly when the capital
dotted I, the one character that is not settled by one tokenization, has no say: it stands in no
stop entry, and in filler entries only where a stop entry is heard in them
(`configure_eq_update_iff`).
-/

namespace BargeIn

open BargeIn.Number BargeIn.Text

/-- Of the settings' entries, those with a capital dotted I never decide. -/
def Settings.DotsSilent (s : Settings) : Prop :=
  (∀ f ∈ s.stops, ¬Dotted f) ∧ ∀ g ∈ s.fillers, Dotted g → Heard s.stops (tokenize g)

instance (s : Settings) : Decidable s.DotsSilent := by
  unfold Settings.DotsSilent
  infer_instance

/-! ## Entries that were normalized -/

/-- An entry without the capital dotted I is still heard once everything is normalized. -/
theorem Text.heard_normalText {stops : List String} {g : String} (hs : ∀ f ∈ stops, ¬Dotted f)
    (h : Heard stops (tokenize g)) : Heard stops (tokenize (normalText g)) := by
  obtain ⟨f, hf, hne, front, back, he⟩ := h
  refine ⟨f, hf, hne, front.flatMap tokenize, back.flatMap tokenize, ?_⟩
  rw [normalText, tokenize_joinTokens, ← he, List.flatMap_append, List.flatMap_append]
  congr 2
  rw [← tokenize_joinTokens]
  exact (tokenize_normalText (hs f hf)).symm

theorem Text.Heard.mono {stops tokens block : List String} (h : Heard stops block)
    (hb : block <:+: tokens) : Heard stops tokens := by
  obtain ⟨f, hf, hne, hi⟩ := h
  exact ⟨f, hf, hne, hi.trans hb⟩

/-- Where no stop entry is heard, normalizing the filler changes none of the places it spans. -/
theorem Settings.DotsSilent.spanned_iff {s : Settings} (h : s.DotsSilent) {tokens : List String}
    (hn : ¬Heard s.stops tokens) (i : Nat) :
    Spanned (s.fillers.map normalText) tokens i ↔ Spanned s.fillers tokens i := by
  have infix_of : ∀ {block : List String} {k : Nat}, block <+: tokens.drop k →
      block <:+: tokens :=
    fun hp => hp.isInfix.trans (List.drop_suffix _ _).isInfix
  constructor
  · rintro ⟨n, hm, k, hk, hl, hp⟩
    obtain ⟨g, hg, rfl⟩ := List.mem_map.1 hm
    by_cases hd : Dotted g
    · exact absurd ((heard_normalText h.1 (h.2 g hg hd)).mono (infix_of hp)) hn
    · rw [tokenize_normalText hd] at hl hp
      exact ⟨g, hg, k, hk, hl, hp⟩
  · rintro ⟨g, hg, k, hk, hl, hp⟩
    by_cases hd : Dotted g
    · exact absurd ((h.2 g hg hd).mono (infix_of hp)) hn
    · rw [← tokenize_normalText hd] at hl hp
      exact ⟨normalText g, List.mem_map_of_mem hg, k, hk, hl, hp⟩

/-! ## Policies of plain and of normalized lists -/

namespace Policy

/-- The policy whose vocabularies are made of the lists as they are. -/
def plain (s : Settings) (floor : Confidence) (speaking : Bool) : Policy :=
  ⟨speaking, floor, .ofTexts s.fillers, .ofTexts s.stops⟩

/-- The policy whose vocabularies are made of normalized entries. -/
def normalized (s : Settings) (floor : Confidence) (speaking : Bool) : Policy :=
  ⟨speaking, floor, .ofTexts (s.fillers.map normalText), .ofTexts (s.stops.map normalText)⟩

variable {s : Settings} {floor : Confidence}

theorem decide_normalized (h : s.DotsSilent) (speaking : Bool) (u : Utterance) :
    (normalized s floor speaking).decide u = (plain s floor speaking).decide u := by
  have hstops : (normalized s floor speaking).stops = (plain s floor speaking).stops :=
    Vocabulary.ofTexts_map_normalText h.1
  apply decide_congr
  · rfl
  · rfl
  apply judge_congr
  · rw [hstops]
  intro hnone
  rw [hstops] at hnone
  have hn := Vocabulary.matchesIn_ofTexts_eq_nil.1 hnone
  apply Vocabulary.uncovered_congr
  intro i
  show (Vocabulary.ofTexts (s.fillers.map normalText)).Covers u.tokens i ↔
    (Vocabulary.ofTexts s.fillers).Covers u.tokens i
  rw [Vocabulary.covers_ofTexts, Vocabulary.covers_ofTexts]
  exact h.spanned_iff hn i

/-- No entry of normalized texts is written with a dot of its own. -/
theorem dot_notMem_of_normalized {texts : List String} {g w : String}
    (hg : g ∈ texts.map normalText) (hw : w ∈ tokenize g) : '\u0307' ∉ w.toList := by
  obtain ⟨t, -, rfl⟩ := List.mem_map.1 hg
  exact dot_notMem_of_mem_tokenize (not_dotted_normalText t) hw

/-- A stop entry with a capital dotted I is heard in itself, but not once it is normalized. -/
theorem verdict_ne_of_dotted_stop {f : String} (hf : f ∈ s.stops) (hd : Dotted f) :
    ((normalized s floor true).decide (.ofText f)).verdict ≠
      ((plain s floor true).decide (.ofText f)).verdict := by
  intro he
  obtain ⟨w, hw, hdot⟩ := exists_dot_of_dotted_text hd
  have hne : tokenize f ≠ [] := List.ne_nil_of_mem hw
  have hself : joinTokens (tokenize f) ∈ (Vocabulary.ofTexts s.stops).matchesIn (tokenize f) :=
    Vocabulary.mem_matchesIn.2 ⟨tokenize f, Vocabulary.mem_entries_ofTexts.2 ⟨hne, f, hf, rfl⟩,
      hne, List.infix_rfl, rfl⟩
  rw [verdict_decide_ofText rfl, verdict_decide_ofText rfl,
    judge_of_hits (p := plain s floor true) (List.ne_nil_of_mem hself)] at he
  -- so some entry of normalized texts reads like `f`, which has a dot
  have hhit := judge_eq_forceStop he
  rw [show (plain s floor true).stops = .ofTexts s.stops from rfl] at hhit
  rw [← hhit] at hself
  obtain ⟨e, hv, -, -, hj⟩ := Vocabulary.mem_matchesIn.1 hself
  obtain ⟨-, g, hg, rfl⟩ := Vocabulary.mem_entries_ofTexts.1 hv
  have hmem : '\u0307' ∈ (joinTokens (tokenize f)).toList := by
    rw [toList_joinTokens]
    exact mem_intercalate (List.mem_map_of_mem hw) hdot
  rw [← hj, toList_joinTokens] at hmem
  rcases eq_space_or_mem_of_mem_intercalate hmem with hsp | ⟨l, hl, hc⟩
  · exact absurd hsp (by decide)
  · obtain ⟨v, hv, rfl⟩ := List.mem_map.1 hl
    exact dot_notMem_of_normalized hg hv hc

/-- A filler entry with a capital dotted I spans itself, but not once it is normalized. -/
theorem verdict_ne_of_dotted_filler {g : String} (hs : ∀ f ∈ s.stops, ¬Dotted f)
    (hg : g ∈ s.fillers) (hd : Dotted g) (hn : ¬Heard s.stops (tokenize g)) :
    ((normalized s floor true).decide (.ofText g)).verdict ≠
      ((plain s floor true).decide (.ofText g)).verdict := by
  have hstops : (normalized s floor true).stops = (plain s floor true).stops :=
    Vocabulary.ofTexts_map_normalText hs
  have hnone : (plain s floor true).stops.matchesIn (tokenize g) = [] :=
    Vocabulary.matchesIn_ofTexts_eq_nil.2 hn
  obtain ⟨w, hw, hdot⟩ := exists_dot_of_dotted_text hd
  have hplain : (plain s floor true).fillers.uncovered (tokenize g) = [] := by
    apply Vocabulary.uncovered_ofTexts_eq_nil.2
    intro i hi
    exact ⟨g, hg, 0, by omega, by omega, List.prefix_rfl⟩
  have hnormal : (normalized s floor true).fillers.uncovered (tokenize g) ≠ [] := by
    intro hu
    obtain ⟨i, hi, rfl⟩ := List.getElem_of_mem hw
    obtain ⟨n, hm, k, hk, hl, hp⟩ := Vocabulary.uncovered_ofTexts_eq_nil.1 hu i hi
    -- the block over place `i` holds the token with the dot
    have hblock : (tokenize g)[i] ∈ tokenize n := by
      have hget := hp.getElem (i := i - k) (by omega)
      rw [List.getElem_drop] at hget
      have hki : k + (i - k) = i := by omega
      simp only [hki] at hget
      rw [← hget]
      exact List.getElem_mem _
    exact dot_notMem_of_normalized hm hblock hdot
  rw [verdict_decide_ofText rfl, verdict_decide_ofText rfl, judge_of_filler hnone hplain,
    judge_of_rest (by rw [hstops, hnone]) hnormal]
  simp

/-- Normalizing the entries leaves every decision as it is exactly when the dots are silent. -/
theorem forall_decide_normalized_iff :
    (∀ speaking u, (normalized s floor speaking).decide u = (plain s floor speaking).decide u) ↔
      s.DotsSilent := by
  constructor
  · intro h
    have hverdict : ∀ t : String, ((normalized s floor true).decide (.ofText t)).verdict =
        ((plain s floor true).decide (.ofText t)).verdict :=
      fun t => congrArg Decision.verdict (h true (.ofText t))
    have hs : ∀ f ∈ s.stops, ¬Dotted f :=
      fun f hf hd => verdict_ne_of_dotted_stop hf hd (hverdict f)
    refine ⟨hs, fun g hg hd => ?_⟩
    by_contra hn
    exact verdict_ne_of_dotted_filler hs hg hd hn (hverdict g)
  · intro h speaking u
    exact decide_normalized h speaking u

end Policy

/-! ## Sessions -/

namespace Session

/-- Installs settings list by list. -/
def update (s : Session) (settings : Settings) : Session :=
  (((s.step (.setFillers settings.fillers)).1.step (.setStops settings.stops)).1.step
    (.setFloor settings.floor)).1

theorem answer_update (s : Session) {settings : Settings} (h : settings.floor.isFinite = true)
    (speaking : Bool) (u : Utterance) :
    (s.update settings).answer speaking u =
      some ((Policy.plain settings (settings.floor.clamp (.ofNat false 0) (.ofNat false 1))
        speaking).decide u) := by
  rw [answer_eq]
  simp [update, step, Settings.normalizeFloor_of_finite h, mapPolicy, Policy.plain]

theorem answer_configure (s : Session) {settings : Settings} (h : settings.floor.isFinite = true)
    (speaking : Bool) (u : Utterance) :
    (s.step (.configure settings)).1.answer speaking u =
      some ((Policy.normalized settings (settings.floor.clamp (.ofNat false 0) (.ofNat false 1))
        speaking).decide u) := by
  rw [answer_eq]
  simp [step, mapPolicy, configured, Settings.normalize, Settings.normalizeFloor_of_finite h,
    Policy.normalized, Vocabulary.ofTexts_normalizeList]

theorem answer_new {settings : Settings} (executor : Executor)
    (h : settings.floor.isFinite = true) (speaking : Bool) (u : Utterance) :
    (new settings executor).answer speaking u =
      some ((Policy.normalized settings (settings.floor.clamp (.ofNat false 0) (.ofNat false 1))
        speaking).decide u) := by
  rw [answer_eq]
  simp [new, Settings.normalize, Settings.normalizeFloor_of_finite h, Policy.normalized,
    Vocabulary.ofTexts_normalizeList]

/-- Settings with a finite floor can be installed as a whole or list by list, into a running session
or a new one: every answer is the same exactly when the dots are silent. -/
theorem configure_eq_update_iff (s : Session) (executor : Executor) (settings : Settings)
    (hfloor : settings.floor.isFinite = true) :
    ((∀ speaking u, (s.step (.configure settings)).1.answer speaking u =
        (s.update settings).answer speaking u) ↔ settings.DotsSilent) ∧
    ((∀ speaking u, (new settings executor).answer speaking u =
        ((new .standard executor).update settings).answer speaking u) ↔ settings.DotsSilent) := by
  constructor
  · simp only [answer_configure s hfloor, answer_update s hfloor, Option.some.injEq]
    exact Policy.forall_decide_normalized_iff
  · simp only [answer_new executor hfloor, answer_update _ hfloor, Option.some.injEq]
    exact Policy.forall_decide_normalized_iff

/-- Settings with one filler, whose first letter is a capital dotted I. -/
def dottedFiller : Settings := ⟨["\u0130\u015fte"], [], Settings.defaultFloor⟩

/-- Of a dotted filler, the two ways to install it do not agree. -/
theorem not_forall_answer_dottedFiller : dottedFiller.floor.isFinite = true ∧
    ¬(∀ speaking u, ((new .standard .running).step (.configure dottedFiller)).1.answer speaking u =
      ((new .standard .running).update dottedFiller).answer speaking u) := by
  have hfinite : dottedFiller.floor.isFinite = true := by decide
  refine ⟨hfinite, fun h => ?_⟩
  have hiff := (configure_eq_update_iff (new .standard .running) .running dottedFiller hfinite).1
  exact absurd (hiff.1 h) (by decide +kernel)

/-- Installed list by list, the dotted filler is ignored; installed as a whole, it interrupts. -/
theorem answer_dottedFiller :
    (((new .standard .running).update dottedFiller).answer true (.ofText "\u0130\u015fte")).map
        Decision.verdict =
      some (.fillerIgnored, .allFiller, ["i\u0307\u015fte"]) ∧
    (((new .standard .running).step (.configure dottedFiller)).1.answer true
        (.ofText "\u0130\u015fte")).map Decision.verdict =
      some (.validInterruption, .mixedNonFiller, ["i\u0307\u015fte"]) := by
  decide +kernel

end Session

end BargeIn
