import Mathlib
import BargeIn.Settings
import BargeIn.Vocabulary
import BargeIn.Proofs.Number.Order
import BargeIn.Proofs.Text.Retokenize

/-!
# Normalized settings

A list of entries can be made a vocabulary as it is or normalized first.  Normalizing joins and
tokenizes every entry once more (`ofTexts_normalizeList`): the blanks and repetitions that it drops
would have been dropped anyway.  A floor that was normalized stays what it is
(`normalizeFloor_normalize`).

Whether a text is tokenized once or twice matters for the capital dotted I alone, and to normalize
settings a third time changes nothing whatever they hold (`normalizing_settles`).
-/

namespace BargeIn

/-! ## Floors -/

namespace Settings

open BargeIn.Number

/-- The floor that a finite one becomes. -/
theorem normalizeFloor_of_finite {floor : Confidence} (h : floor.isFinite = true) :
    normalizeFloor floor = some (floor.clamp (.ofNat false 0) (.ofNat false 1)) := by
  unfold normalizeFloor
  rw [if_pos h]

/-- A normalized floor is finite, and normalizing leaves it as it is. -/
theorem normalizeFloor_normalize (s : Settings) :
    s.normalize.floor.isFinite = true ∧
      normalizeFloor s.normalize.floor = some s.normalize.floor := by
  by_cases h : s.floor.isFinite = true
  · have hfloor : s.normalize.floor = s.floor.clamp (.ofNat false 0) (.ofNat false 1) := by
      simp [normalize, normalizeFloor_of_finite h]
    rw [hfloor]
    have hfinite : (s.floor.clamp (.ofNat false 0) (.ofNat false 1)).isFinite = true :=
      Binary.isFinite_clamp (by decide) (by decide) h
    refine ⟨hfinite, ?_⟩
    rw [normalizeFloor_of_finite hfinite, Binary.clamp_clamp _ (by decide)]
  · have hfloor : s.normalize.floor = defaultFloor := by
      simp [normalize, normalizeFloor, h]
    rw [hfloor]
    decide

theorem floor_normalize_of_normalized {s : Settings} (h : normalizeFloor s.floor = some s.floor) :
    s.normalize.floor = s.floor := by
  simp [normalize, h]

end Settings

/-! ## Lists -/

namespace Vocabulary

open BargeIn.Text

theorem ofTexts_congr {texts others : List String} (h : texts.map tokenize = others.map tokenize) :
    ofTexts texts = ofTexts others := by
  unfold ofTexts
  rw [h]

theorem ofTexts_firstSeen (texts : List String) : ofTexts (firstSeen texts) = ofTexts texts := by
  unfold ofTexts
  rw [← filter_firstSeen, ← filter_firstSeen, firstSeen_map_firstSeen]

/-- A text without tokens leaves no entry. -/
theorem ofTexts_filter_ne_empty (texts : List String) :
    ofTexts (texts.filter (· ≠ "")) = ofTexts texts := by
  have hempty : tokenize "" = [] := rfl
  unfold ofTexts
  rw [List.filter_map, List.filter_map, List.filter_filter]
  congr 3
  refine List.filter_congr fun t _ => ?_
  by_cases ht : t = ""
  · simp [ht, hempty]
  · simp [ht]

theorem ofTexts_normalizeList (texts : List String) :
    ofTexts (Settings.normalizeList texts) = ofTexts (texts.map normalText) := by
  unfold Settings.normalizeList
  rw [ofTexts_firstSeen, ofTexts_filter_ne_empty]
  rfl

theorem ofTexts_map_normalText {texts : List String} (h : ∀ t ∈ texts, ¬Dotted t) :
    ofTexts (texts.map normalText) = ofTexts texts := by
  apply ofTexts_congr
  rw [List.map_map]
  exact List.map_congr_left fun t ht => tokenize_normalText (h t ht)

theorem not_dotted_of_mem_normalizeList {texts : List String} {t : String}
    (h : t ∈ Settings.normalizeList texts) : ¬Dotted t := by
  obtain ⟨-, g, -, rfl⟩ := Settings.mem_normalizeList.1 h
  exact not_dotted_normalText g

/-- Entries that were normalized before can be normalized again. -/
theorem ofTexts_normalizeList_normalizeList (texts : List String) :
    ofTexts (Settings.normalizeList (Settings.normalizeList texts)) =
      ofTexts (Settings.normalizeList texts) := by
  rw [ofTexts_normalizeList, ofTexts_map_normalText fun _ => not_dotted_of_mem_normalizeList]

end Vocabulary

/-! ## Normalizing again -/

namespace Text

/-- The dot that a capital dotted I leaves in a token is a separator the second time. -/
theorem tokenize_normalText_iff (t : String) :
    tokenize (normalText t) = tokenize t ↔ ¬Dotted t := by
  constructor
  · intro h hd
    obtain ⟨w, hw, hdot⟩ := exists_dot_of_dotted_text hd
    rw [← h] at hw
    exact dot_notMem_of_mem_tokenize (not_dotted_normalText t) hw hdot
  · exact tokenize_normalText

end Text

namespace Settings

open BargeIn.Text

theorem normalizeList_eq_self {texts : List String} (hnodup : texts.Nodup)
    (h : ∀ t ∈ texts, t ≠ "" ∧ normalText t = t) : normalizeList texts = texts := by
  have hmap : texts.map (fun e => joinTokens (tokenize e)) = texts := by
    conv => rhs; rw [← List.map_id texts]
    exact List.map_congr_left fun t ht => (h t ht).2
  unfold normalizeList
  rw [hmap, List.filter_eq_self.2, firstSeen_of_nodup hnodup]
  intro t ht
  exact decide_eq_true (h t ht).1

/-- The second normalization may still change a list, the third does not. -/
theorem normalizeList_settled (texts : List String) :
    normalizeList (normalizeList (normalizeList texts)) = normalizeList (normalizeList texts) := by
  apply normalizeList_eq_self
  · unfold normalizeList
    exact nodup_firstSeen _
  · intro t ht
    obtain ⟨hne, g, hg, rfl⟩ := mem_normalizeList.1 ht
    refine ⟨hne, ?_⟩
    show joinTokens (tokenize (normalText g)) = joinTokens (tokenize g)
    rw [tokenize_normalText (Vocabulary.not_dotted_of_mem_normalizeList hg)]

/-- Tokens that are joined and tokenized again are the same tokens exactly where the text has no
capital dotted I; and from the second normalization on, texts and settings stay what they are. -/
theorem normalizing_settles :
    (∀ t : String, tokenize (joinTokens (tokenize t)) = tokenize t ↔ '\u0130' ∉ t.toList) ∧
    (∀ t : String, normalText (normalText (normalText t)) = normalText (normalText t)) ∧
    ∀ s : Settings, s.normalize.normalize.normalize = s.normalize.normalize := by
  refine ⟨tokenize_normalText_iff, fun t => ?_, fun s => ?_⟩
  · show joinTokens (tokenize (normalText (normalText t))) = joinTokens (tokenize (normalText t))
    rw [tokenize_normalText_normalText]
  · have hfloor : s.normalize.normalize.normalize.floor = s.normalize.normalize.floor :=
      floor_normalize_of_normalized (normalizeFloor_normalize s.normalize).2
    have hfillers := normalizeList_settled s.fillers
    have hstops := normalizeList_settled s.stops
    show Settings.mk _ _ _ = Settings.mk _ _ _
    rw [Settings.mk.injEq]
    exact ⟨hfillers, hstops, hfloor⟩

/-- A list that the second normalization changes. -/
example : normalizeList ["\u0130\u015fte"] = ["i\u0307\u015fte"] ∧
    normalizeList ["i\u0307\u015fte"] = ["i \u015fte"] := by
  decide +kernel

end Settings

end BargeIn
