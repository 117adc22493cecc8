import Mathlib
import BargeIn.Text.Token
import BargeIn.Proofs.Unicode.LowerCase

/-!
# Pieces and tokens

A piece is what remains of a text between two separators once its edges are trimmed.  A token is a
piece that lower-casing leaves alone.  Every piece without the capital dotted I lower-cases to a
token (`isToken_lowerWord`), and a token is its own only token (`tokensOf_of_isToken`).
-/

namespace BargeIn.Text

open BargeIn.Unicode

/-- Characters that are not empty, hold no separator and have no apostrophe at their edges. -/
structure IsPiece (p : List Char) : Prop where
  ne_nil : p ≠ []
  not_separator : ∀ c ∈ p, isSeparator c = false
  head_kept : ∀ c ∈ p.head?, isEdge c = false
  last_kept : ∀ c ∈ p.getLast?, isEdge c = false

/-- A piece in lower case. -/
structure IsToken (w : List Char) : Prop extends IsPiece w where
  settled : ∀ c ∈ w, lowercase c = [c]

/-! ## Trimming -/

theorem head_not_of_dropWhile {p : Char → Bool} {s : List Char} :
    ∀ c ∈ (s.dropWhile p).head?, p c = false := by
  intro c hc
  have := List.head?_dropWhile_not p s
  rw [Option.mem_def.1 hc] at this
  simpa using this

theorem trimEdges_eq (s : List Char) : trimEdges s = (s.dropWhile isEdge).rdropWhile isEdge := rfl

theorem trimEdges_isInfix_self (s : List Char) : trimEdges s <:+: s := by
  rw [trimEdges_eq]
  exact (List.rdropWhile_prefix isEdge _).isInfix.trans (List.dropWhile_suffix isEdge).isInfix

/-- What trimming leaves between separators is a piece, if it leaves anything. -/
theorem isPiece_trimEdges {s : List Char} (hs : ∀ c ∈ s, isSeparator c = false)
    (hne : trimEdges s ≠ []) : IsPiece (trimEdges s) where
  ne_nil := hne
  not_separator c hc := hs c ((trimEdges_isInfix_self s).subset hc)
  head_kept c hc := by
    rw [trimEdges_eq] at hc
    obtain ⟨t, ht⟩ := List.rdropWhile_prefix isEdge (s.dropWhile isEdge)
    apply head_not_of_dropWhile (s := s)
    rw [← ht, List.head?_append, Option.mem_def.1 hc]
    rfl
  last_kept c hc := by
    apply head_not_of_dropWhile (s := (s.dropWhile isEdge).reverse)
    unfold trimEdges at hc
    rwa [List.getLast?_reverse] at hc

theorem trimEdges_of_isPiece {p : List Char} (h : IsPiece p) : trimEdges p = p := by
  have hd : p.dropWhile isEdge = p := by
    cases p with
    | nil => rfl
    | cons c rest =>
      rw [List.dropWhile_cons, if_neg]
      simp [h.head_kept c rfl]
  rw [trimEdges_eq, hd, List.rdropWhile_eq_self_iff]
  intro hl
  simp [h.last_kept _ (List.getLast?_eq_some_getLast hl)]

theorem normalizePiece_of_isPiece {p : List Char} (h : IsPiece p) :
    normalizePiece p = some (lowerWord p) := by
  unfold normalizePiece
  rw [trimEdges_of_isPiece h]
  cases p with
  | nil => exact absurd rfl h.ne_nil
  | cons c rest => rfl

theorem normalizePiece_eq_some {s w : List Char} :
    normalizePiece s = some w ↔ trimEdges s ≠ [] ∧ lowerWord (trimEdges s) = w := by
  unfold normalizePiece
  cases trimEdges s with
  | nil => simp
  | cons c rest => simp

/-! ## Lower-casing a piece -/

/-- `d` can stand in a token where `c` stands in a piece. -/
def Settles (c d : Char) : Prop := lowercase d = [d] ∧ (d = c ∨ isAlphanumeric d = true)

theorem isEdge_of_isAlphanumeric {c : Char} (h : isAlphanumeric c = true) : isEdge c = false := by
  have hq : c ≠ '\'' := by
    rintro rfl
    revert h
    decide +kernel
  simp [isEdge, isSeparator, h, hq]

theorem isSeparator_of_not_isEdge {c : Char} (h : isEdge c = false) : isSeparator c = false := by
  unfold isEdge at h
  exact (Bool.or_eq_false_iff.1 h).2

theorem Settles.isEdge_eq_false {c d : Char} (h : Settles c d) (hc : isEdge c = false) :
    isEdge d = false := by
  rcases h.2 with rfl | hd
  · exact hc
  · exact isEdge_of_isAlphanumeric hd

theorem Settles.isSeparator_eq_false {c d : Char} (h : Settles c d) (hc : isSeparator c = false) :
    isSeparator d = false := by
  rcases h.2 with rfl | hd
  · exact hc
  · exact isSeparator_of_not_isEdge (isEdge_of_isAlphanumeric hd)

theorem settles_lowerSigma (before after : List Char) : Settles 'Σ' (lowerSigma before after) := by
  unfold lowerSigma Settles
  split
  · exact ⟨by decide +kernel, Or.inr (by decide +kernel)⟩
  · exact ⟨by decide +kernel, Or.inr (by decide +kernel)⟩

/-- Without the capital dotted I, lower-casing goes character by character. -/
theorem forall₂_lowerBehind {s : List Char} (h : '\u0130' ∉ s) (before : List Char) :
    List.Forall₂ Settles s (lowerBehind before s) := by
  induction s generalizing before with
  | nil => exact .nil
  | cons c rest ih =>
    rw [List.mem_cons, not_or] at h
    unfold lowerBehind
    split
    · next hc =>
      subst hc
      exact .cons (settles_lowerSigma before rest) (ih h.2 _)
    · obtain ⟨d, hd, hfix, hcd⟩ := lowercase_of_ne (Ne.symm h.1)
      rw [hd]
      exact .cons ⟨hfix, hcd⟩ (ih h.2 _)

/-- The capital sigma is not settled, so settled characters do not look at their neighbours. -/
theorem lowerBehind_of_settled {s : List Char} (h : ∀ c ∈ s, lowercase c = [c])
    (before : List Char) : lowerBehind before s = s := by
  induction s generalizing before with
  | nil => rfl
  | cons c rest ih =>
    have hc := h c List.mem_cons_self
    have hne : c ≠ 'Σ' := by
      rintro rfl
      revert hc
      decide +kernel
    rw [lowerBehind, if_neg hne, hc, ih fun d hd => h d (List.mem_cons_of_mem _ hd)]
    rfl

theorem head_of_forall₂ {s t : List Char} (h : List.Forall₂ Settles s t) :
    ∀ d ∈ t.head?, ∃ c ∈ s.head?, Settles c d := by
  cases h with
  | nil => simp
  | cons hcd _ => simpa using hcd

theorem isToken_lowerWord {p : List Char} (h : IsPiece p) (hd : '\u0130' ∉ p) :
    IsToken (lowerWord p) := by
  have hall := forall₂_lowerBehind hd []
  have hmem : ∀ d ∈ lowerWord p, ∃ c ∈ p, Settles c d := by
    intro d hdw
    obtain ⟨i, hi, rfl⟩ := List.getElem_of_mem hdw
    have hlen := hall.length_eq
    have hip : i < p.length := by
      unfold lowerWord at hi
      omega
    exact ⟨p[i], List.getElem_mem _, hall.get _ hi⟩
  exact
    { ne_nil := by
        intro he
        have hlen := hall.length_eq
        unfold lowerWord at he
        rw [he, List.length_nil] at hlen
        exact h.ne_nil (List.length_eq_zero_iff.1 hlen)
      not_separator := by
        intro d hdw
        obtain ⟨c, hc, hs⟩ := hmem d hdw
        exact hs.isSeparator_eq_false (h.not_separator c hc)
      head_kept := by
        intro d hdw
        obtain ⟨c, hc, hs⟩ := head_of_forall₂ hall d hdw
        exact hs.isEdge_eq_false (h.head_kept c hc)
      last_kept := by
        intro d hdw
        rw [List.getLast?_eq_head?_reverse] at hdw
        obtain ⟨c, hc, hs⟩ := head_of_forall₂ (List.rel_reverse hall) d hdw
        rw [← List.getLast?_eq_head?_reverse] at hc
        exact hs.isEdge_eq_false (h.last_kept c hc)
      settled := by
        intro d hdw
        obtain ⟨c, -, hs⟩ := hmem d hdw
        exact hs.1 }

/-- A lower-cased character settles one that stands in the piece, or comes of a capital dotted I. -/
theorem mem_lowerBehind {d : Char} {before s : List Char} (h : d ∈ lowerBehind before s) :
    (∃ c ∈ s, Settles c d) ∨ d = 'i' ∨ d = '\u0307' := by
  induction s generalizing before with
  | nil => simp [lowerBehind] at h
  | cons c rest ih =>
    unfold lowerBehind at h
    rcases List.mem_append.1 h with h | h
    · split at h
      · next hc =>
        rw [List.mem_singleton] at h
        exact Or.inl ⟨c, List.mem_cons_self, hc ▸ h ▸ settles_lowerSigma before rest⟩
      · by_cases hc : c = '\u0130'
        · rw [hc, lowercase_dotted] at h
          exact Or.inr (by simpa using h)
        · obtain ⟨e, he, hsettles⟩ := lowercase_of_ne hc
          rw [he, List.mem_singleton] at h
          exact Or.inl ⟨c, List.mem_cons_self, h ▸ hsettles⟩
    · exact (ih h).imp_left fun ⟨b, hb, hsettles⟩ => ⟨b, List.mem_cons_of_mem _ hb, hsettles⟩

/-- Nothing lower-cases to the capital dotted I. -/
theorem dotted_notMem_lowerBehind (before s : List Char) : '\u0130' ∉ lowerBehind before s := by
  intro h
  rcases mem_lowerBehind h with ⟨c, -, hfix, -⟩ | h | h
  · exact ne_dotted_of_lowercase hfix rfl
  · exact absurd h (by decide)
  · exact absurd h (by decide)

/-- Lower-casing leaves something of everything. -/
theorem lowerBehind_ne_nil {s : List Char} (h : s ≠ []) (before : List Char) :
    lowerBehind before s ≠ [] := by
  have hlower : ∀ c, lowercase c ≠ [] := by
    intro c
    by_cases hc : c = '\u0130'
    · rw [hc, lowercase_dotted]
      exact List.cons_ne_nil _ _
    · obtain ⟨d, hd, -⟩ := lowercase_of_ne hc
      rw [hd]
      exact List.cons_ne_nil _ _
  obtain ⟨c, rest, rfl⟩ := List.exists_cons_of_ne_nil h
  unfold lowerBehind
  refine List.append_ne_nil_of_left_ne_nil ?_ _
  split
  · exact List.cons_ne_nil _ _
  · exact hlower c

/-- The capital dotted I leaves its dot behind. -/
theorem dot_mem_lowerBehind {s : List Char} (h : '\u0130' ∈ s) (before : List Char) :
    '\u0307' ∈ lowerBehind before s := by
  induction s generalizing before with
  | nil => simp at h
  | cons c rest ih =>
    unfold lowerBehind
    rw [List.mem_append]
    rcases List.mem_cons.1 h with rfl | hr
    · rw [if_neg (by decide), lowercase_dotted]
      exact Or.inl (by decide)
    · exact Or.inr (ih hr _)

/-! ## The tokens of pieces and tokens -/

theorem tokensOf_of_not_separator {s : List Char} (h : ∀ c ∈ s, isSeparator c = false) :
    tokensOf s = (normalizePiece s).toList := by
  unfold tokensOf
  rw [List.splitOnP_eq_singleton h]
  cases hn : normalizePiece s <;> simp [hn]

theorem tokensOf_of_isPiece {p : List Char} (h : IsPiece p) : tokensOf p = [lowerWord p] := by
  rw [tokensOf_of_not_separator h.not_separator, normalizePiece_of_isPiece h]
  rfl

theorem tokensOf_of_isToken {w : List Char} (h : IsToken w) : tokensOf w = [w] := by
  rw [tokensOf_of_isPiece h.toIsPiece, lowerWord, lowerBehind_of_settled h.settled]

end BargeIn.Text
