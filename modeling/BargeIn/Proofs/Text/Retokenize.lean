import Mathlib
import BargeIn.Proofs.Text.Piece

/-!
# Tokenizing again

Configured entries are written as their tokens with single spaces between them and tokenized again
later on.  That changes nothing for a text without the capital dotted I
(`tokenize_normalText`), and a normalized text never has one, so every text is settled once it
has been normalized:

    tokenize (normalText (normalText t)) = tokenize (normalText t)

This rests on what separators do: texts with separators between them have the tokens of each of them
(`IsBreak.tokenize_intercalate`).  No token holds a space, so joined tokens can be taken apart again
(`splitSpaces_joinTokens`).
-/

namespace BargeIn.Text

/-! ## Cutting at separators -/

/-- A text has no separator, or it goes on behind its first one. -/
theorem separator_induction {P : List Char → Prop}
    (whole : ∀ s, (∀ c ∈ s, isSeparator c = false) → P s)
    (cut : ∀ p c t, (∀ d ∈ p, isSeparator d = false) → isSeparator c = true → P t →
      P (p ++ c :: t)) (s : List Char) : P s := by
  -- generalized over a front without separators that has been passed already
  suffices h : ∀ p, (∀ c ∈ p, isSeparator c = false) → P (p ++ s) by
    simpa using h [] (by simp)
  induction s with
  | nil =>
    intro p hp
    rw [List.append_nil]
    exact whole p hp
  | cons c t ih =>
    intro p hp
    cases hc : isSeparator c with
    | true => exact cut p c t hp hc (by simpa using ih [] (by simp))
    | false =>
      have hpc : ∀ d ∈ p ++ [c], isSeparator d = false := by
        intro d hd
        rcases List.mem_append.1 hd with hd | hd
        · exact hp d hd
        · rw [List.mem_singleton.1 hd]
          exact hc
      simpa using ih (p ++ [c]) hpc

/-- Separators, one or more. -/
structure IsBreak (gap : List Char) : Prop where
  ne_nil : gap ≠ []
  separator : ∀ c ∈ gap, isSeparator c = true

theorem tokensOf_gap_append {gap : List Char} (hgap : ∀ c ∈ gap, isSeparator c = true)
    (t : List Char) : tokensOf (gap ++ t) = tokensOf t := by
  induction gap with
  | nil => rfl
  | cons c gap ih =>
    have hc := hgap c List.mem_cons_self
    have hrest := ih fun d hd => hgap d (List.mem_cons_of_mem _ hd)
    rw [List.cons_append, ← List.nil_append (c :: (gap ++ t)), tokensOf_append_cons _ _ hc, hrest]
    rfl

theorem IsBreak.tokensOf_append {gap : List Char} (h : IsBreak gap) (s t : List Char) :
    tokensOf (s ++ (gap ++ t)) = tokensOf s ++ tokensOf t := by
  obtain ⟨c, gap, rfl⟩ := List.exists_cons_of_ne_nil h.ne_nil
  rw [List.cons_append, tokensOf_append_cons _ _ (h.separator c List.mem_cons_self),
    tokensOf_gap_append fun d hd => h.separator d (List.mem_cons_of_mem _ hd)]

/-- Pieces with separators between them have the tokens of each of them. -/
theorem IsBreak.tokensOf_intercalate {gap : List Char} (h : IsBreak gap)
    (ws : List (List Char)) : tokensOf (gap.intercalate ws) = ws.flatMap tokensOf := by
  induction ws with
  | nil => rfl
  | cons w ws ih =>
    cases ws with
    | nil => simp
    | cons v ws =>
      rw [List.intercalate_cons_cons, List.append_assoc, h.tokensOf_append, ih]
      rfl

theorem exists_piece_of_mem_tokensOf {s w : List Char} (h : w ∈ tokensOf s) :
    ∃ p, IsPiece p ∧ p <:+: s ∧ lowerWord p = w := by
  -- the token of a text without separators, which may stand before a separator
  have front : ∀ s, (∀ c ∈ s, isSeparator c = false) → w ∈ tokensOf s →
      ∃ p, IsPiece p ∧ p <:+: s ∧ lowerWord p = w := by
    intro s hs hw
    rw [tokensOf_of_not_separator hs, Option.mem_toList, normalizePiece_eq_some] at hw
    exact ⟨trimEdges s, isPiece_trimEdges hs hw.1, trimEdges_isInfix_self s, hw.2⟩
  induction s using separator_induction with
  | whole s hs => exact front s hs h
  | cut p c t hp hc ih =>
    rw [tokensOf_append_cons p t hc, List.mem_append] at h
    rcases h with h | h
    · obtain ⟨q, hq, hi, he⟩ := front p hp h
      exact ⟨q, hq, hi.trans (List.prefix_append _ _).isInfix, he⟩
    · obtain ⟨q, hq, hi, he⟩ := ih h
      refine ⟨q, hq, hi.trans ⟨p ++ [c], [], by simp⟩, he⟩

theorem isToken_of_mem_tokensOf {s w : List Char} (hs : '\u0130' ∉ s) (h : w ∈ tokensOf s) :
    IsToken w := by
  obtain ⟨p, hp, hi, rfl⟩ := exists_piece_of_mem_tokensOf h
  exact isToken_lowerWord hp fun hd => hs (hi.subset hd)

theorem dotted_notMem_of_mem_tokensOf {s w : List Char} (h : w ∈ tokensOf s) : '\u0130' ∉ w := by
  obtain ⟨p, -, -, rfl⟩ := exists_piece_of_mem_tokensOf h
  exact dotted_notMem_lowerBehind [] p

theorem isEdge_dotted : isEdge '\u0130' = false := by decide +kernel

theorem mem_trimEdges_of_not_isEdge {s : List Char} {c : Char} (hc : isEdge c = false)
    (h : c ∈ s) : c ∈ trimEdges s := by
  have hd : ∀ l : List Char, c ∈ l → c ∈ l.dropWhile isEdge := by
    intro l hl
    rw [← List.takeWhile_append_dropWhile (p := isEdge) (l := l), List.mem_append] at hl
    rcases hl with hl | hl
    · have := List.mem_takeWhile_imp hl
      rw [hc] at this
      exact absurd this (by simp)
    · exact hl
  unfold trimEdges
  rw [List.mem_reverse]
  exact hd _ (List.mem_reverse.2 (hd s h))

/-- The dot of a capital dotted I shows up in a token. -/
theorem exists_dot_of_dotted {s : List Char} (h : '\u0130' ∈ s) :
    ∃ w ∈ tokensOf s, '\u0307' ∈ w := by
  have front : ∀ s, (∀ c ∈ s, isSeparator c = false) → '\u0130' ∈ s →
      ∃ w ∈ tokensOf s, '\u0307' ∈ w := by
    intro s hs hd
    have hmem := mem_trimEdges_of_not_isEdge isEdge_dotted hd
    refine ⟨lowerWord (trimEdges s), ?_, dot_mem_lowerBehind hmem []⟩
    rw [tokensOf_of_not_separator hs, Option.mem_toList, normalizePiece_eq_some]
    exact ⟨List.ne_nil_of_mem hmem, rfl⟩
  induction s using separator_induction with
  | whole s hs => exact front s hs h
  | cut p c t hp hc ih =>
    rw [tokensOf_append_cons p t hc]
    have hne : '\u0130' ≠ c := by
      rintro rfl
      rw [isSeparator_of_not_isEdge isEdge_dotted] at hc
      exact absurd hc (by simp)
    rcases List.mem_append.1 h with h | h
    · obtain ⟨w, hw, hdot⟩ := front p hp h
      exact ⟨w, List.mem_append_left _ hw, hdot⟩
    · obtain ⟨w, hw, hdot⟩ := ih ((List.mem_cons.1 h).resolve_left hne)
      exact ⟨w, List.mem_append_right _ hw, hdot⟩

theorem dot_notMem_of_isToken {w : List Char} (h : IsToken w) : '\u0307' ∉ w := by
  intro hm
  have := h.not_separator _ hm
  revert this
  decide +kernel

/-! ## Joining -/

theorem isSeparator_space : isSeparator ' ' = true := by decide +kernel

theorem isBreak_space : IsBreak " ".toList where
  ne_nil := by simp
  separator := by simp [isSeparator_space]

theorem eq_space_or_mem_of_mem_intercalate {c : Char} {ws : List (List Char)}
    (h : c ∈ [' '].intercalate ws) : c = ' ' ∨ ∃ w ∈ ws, c ∈ w := by
  induction ws with
  | nil => simp at h
  | cons w ws ih =>
    cases ws with
    | nil => exact Or.inr ⟨w, List.mem_cons_self, by simpa using h⟩
    | cons v ws =>
      rw [List.intercalate_cons_cons, List.append_assoc, List.mem_append,
        List.singleton_append, List.mem_cons] at h
      rcases h with h | h | h
      · exact Or.inr ⟨w, List.mem_cons_self, h⟩
      · exact Or.inl h
      · rcases ih h with he | ⟨u, hu, hc⟩
        · exact Or.inl he
        · exact Or.inr ⟨u, List.mem_cons_of_mem _ hu, hc⟩

theorem mem_intercalate {c : Char} {ws : List (List Char)} {w : List Char} (hw : w ∈ ws)
    (hc : c ∈ w) : c ∈ [' '].intercalate ws := by
  induction ws with
  | nil => simp at hw
  | cons v ws ih =>
    cases ws with
    | nil =>
      rw [List.mem_singleton.1 hw] at hc
      simpa using hc
    | cons u ws =>
      rw [List.intercalate_cons_cons, List.append_assoc, List.mem_append]
      rcases List.mem_cons.1 hw with rfl | hw
      · exact Or.inl hc
      · exact Or.inr (List.mem_cons_of_mem _ (ih hw))

theorem map_toList_tokenize (t : String) : (tokenize t).map String.toList = tokensOf t.toList := by
  unfold tokenize
  rw [List.map_map]
  simp [Function.comp_def]

/-- A text around separators has the tokens of both its sides. -/
theorem IsBreak.tokenize_append {gap : String} (h : IsBreak gap.toList) (s t : String) :
    tokenize (s ++ gap ++ t) = tokenize s ++ tokenize t := by
  unfold tokenize
  rw [String.toList_append, String.toList_append, List.append_assoc, h.tokensOf_append,
    List.map_append]

/-- Texts between separators have the tokens of each of them. -/
theorem IsBreak.tokenize_intercalate {gap : String} (h : IsBreak gap.toList) (ts : List String) :
    tokenize (gap.intercalate ts) = tokenizeAll ts := by
  unfold tokenize tokenizeAll
  rw [String.toList_intercalate, h.tokensOf_intercalate, List.flatMap_map, List.map_flatMap]
  rfl

theorem tokenize_joinTokens (ts : List String) : tokenize (joinTokens ts) = ts.flatMap tokenize :=
  IsBreak.tokenize_intercalate isBreak_space ts

/-- Texts that are their own only token come back from one text. -/
theorem tokenize_joinTokens_of_settled {ts : List String} (h : ∀ w ∈ ts, tokenize w = [w]) :
    tokenize (joinTokens ts) = ts := by
  rw [tokenize_joinTokens, List.flatMap_congr h]
  simp

/-! ## Taking joined tokens apart -/

/-- A token holds no space, not even one that tokenizing it again would cut. -/
theorem space_notMem_of_mem_tokenize {t w : String} (h : w ∈ tokenize t) : ' ' ∉ w.toList := by
  unfold tokenize at h
  obtain ⟨v, hv, rfl⟩ := List.mem_map.1 h
  obtain ⟨p, hp, -, rfl⟩ := exists_piece_of_mem_tokensOf hv
  rw [String.toList_ofList]
  intro hspace
  rcases mem_lowerBehind hspace with ⟨c, hc, hsettles⟩ | h | h
  · have hsep := hsettles.isSeparator_eq_false (hp.not_separator c hc)
    rw [isSeparator_space] at hsep
    exact Bool.false_ne_true hsep.symm
  · exact absurd h (by decide)
  · exact absurd h (by decide)

/-- Nor is a token empty. -/
theorem ne_empty_of_mem_tokenize {t w : String} (h : w ∈ tokenize t) : w ≠ "" := by
  unfold tokenize at h
  obtain ⟨v, hv, rfl⟩ := List.mem_map.1 h
  obtain ⟨p, hp, -, rfl⟩ := exists_piece_of_mem_tokensOf hv
  intro hempty
  have hnil : lowerWord p = [] := by simpa using hempty
  exact lowerBehind_ne_nil hp.ne_nil [] hnil

/-- Words come back from between separators that they do not hold, if there are any words. -/
theorem splitOn_map_toList {c : Char} {ws : List String} (h : ∀ w ∈ ws, c ∉ w.toList)
    (hne : ws ≠ []) :
    ([c].intercalate (ws.map String.toList)).splitOn c = ws.map String.toList := by
  apply List.splitOn_intercalate
  · intro l hl
    obtain ⟨w, hw, rfl⟩ := List.mem_map.1 hl
    exact h w hw
  · simpa using hne

theorem splitOn_joinTokens {ws : List String} (h : ∀ w ∈ ws, ' ' ∉ w.toList) (hne : ws ≠ []) :
    (joinTokens ws).toList.splitOn ' ' = ws.map String.toList := by
  rw [toList_joinTokens, splitOn_map_toList h hne]

/-- The parts of a text between its single spaces, blank ones among them. -/
def splitSpaces (s : String) : List String := (s.toList.splitOn ' ').map String.ofList

theorem splitSpaces_joinTokens {ws : List String} (h : ∀ w ∈ ws, ' ' ∉ w.toList) (hne : ws ≠ []) :
    splitSpaces (joinTokens ws) = ws := by
  unfold splitSpaces
  rw [splitOn_joinTokens h hne, List.map_map]
  simp [Function.comp_def]

/-- Nothing is joined from no words only, if no word is empty. -/
theorem joinTokens_eq_empty {ws : List String} (h : ∀ w ∈ ws, w ≠ "") :
    joinTokens ws = "" ↔ ws = [] := by
  constructor
  · intro hempty
    by_contra hne
    obtain ⟨w, rest, rfl⟩ := List.exists_cons_of_ne_nil hne
    have hw := h w List.mem_cons_self
    obtain ⟨c, hc⟩ := List.exists_mem_of_ne_nil w.toList (by simpa using hw)
    have hmem : c ∈ (joinTokens (w :: rest)).toList := by
      rw [toList_joinTokens]
      exact mem_intercalate (List.mem_map_of_mem List.mem_cons_self) hc
    rw [hempty] at hmem
    simp at hmem
  · rintro rfl
    rfl

/-! ## Normalized texts -/

/-- The text holds the capital dotted I. -/
def Dotted (t : String) : Prop := '\u0130' ∈ t.toList

instance (t : String) : Decidable (Dotted t) := by
  unfold Dotted
  infer_instance

/-- The tokens of a text with single spaces between them. -/
def normalText (t : String) : String := joinTokens (tokenize t)

theorem tokenize_of_mem_tokenize {t w : String} (ht : ¬Dotted t) (h : w ∈ tokenize t) :
    tokenize w = [w] := by
  unfold tokenize at h
  obtain ⟨v, hv, rfl⟩ := List.mem_map.1 h
  unfold tokenize
  rw [String.toList_ofList, tokensOf_of_isToken (isToken_of_mem_tokensOf ht hv)]
  rfl

theorem tokenize_normalText {t : String} (ht : ¬Dotted t) : tokenize (normalText t) = tokenize t :=
  tokenize_joinTokens_of_settled fun _ hw => tokenize_of_mem_tokenize ht hw

theorem not_dotted_of_mem_tokenize {t w : String} (h : w ∈ tokenize t) : ¬Dotted w := by
  unfold tokenize at h
  obtain ⟨v, hv, rfl⟩ := List.mem_map.1 h
  unfold Dotted
  rw [String.toList_ofList]
  exact dotted_notMem_of_mem_tokensOf hv

theorem not_dotted_joinTokens {ts : List String} (h : ∀ w ∈ ts, ¬Dotted w) :
    ¬Dotted (joinTokens ts) := by
  unfold Dotted
  rw [toList_joinTokens]
  intro hd
  rcases eq_space_or_mem_of_mem_intercalate hd with he | ⟨l, hl, hd⟩
  · exact absurd he (by decide)
  · obtain ⟨w, hw, rfl⟩ := List.mem_map.1 hl
    exact h w hw hd

theorem not_dotted_normalText (t : String) : ¬Dotted (normalText t) :=
  not_dotted_joinTokens fun _ hw => not_dotted_of_mem_tokenize hw

/-- From the first normalization on, the tokens stay what they are. -/
theorem tokenize_normalText_normalText (t : String) :
    tokenize (normalText (normalText t)) = tokenize (normalText t) :=
  tokenize_normalText (not_dotted_normalText t)

theorem exists_dot_of_dotted_text {t : String} (h : Dotted t) :
    ∃ w ∈ tokenize t, '\u0307' ∈ w.toList := by
  obtain ⟨w, hw, hdot⟩ := exists_dot_of_dotted h
  rw [← map_toList_tokenize] at hw
  obtain ⟨v, hv, rfl⟩ := List.mem_map.1 hw
  exact ⟨v, hv, hdot⟩

theorem dot_notMem_of_mem_tokenize {t w : String} (ht : ¬Dotted t) (h : w ∈ tokenize t) :
    '\u0307' ∉ w.toList := by
  have hw : w.toList ∈ tokensOf t.toList := by
    rw [← map_toList_tokenize]
    exact List.mem_map_of_mem h
  exact dot_notMem_of_isToken (isToken_of_mem_tokensOf ht hw)

end BargeIn.Text
