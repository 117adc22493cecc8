import Mathlib
import BargeIn.Proofs.Text.Retokenize

/-!
# The grammar of spoken text

A text is gaps and pieces in turn, `g₀ p₁ g₁ … pₙ gₙ`.  Gaps hold separators and apostrophes only,
and a gap between two pieces holds a separator; pieces hold no separator and have no apostrophe at
their edges.  Every text can be cut in this way and in no other, and its tokens are the pieces in
lower case (`tokenize_eq_pieces`).
-/

namespace BargeIn.Text

/-! ## Cuttings -/

/-- Separators and apostrophes only. -/
def IsGap (g : List Char) : Prop := ∀ c ∈ g, isEdge c = true

/-- A letter, a number or an underscore. -/
def isWordChar (c : Char) : Bool := Unicode.isAlphanumeric c || c == '_'

/-- Gaps and pieces in turn, a gap first and a gap last. -/
inductive Cutting where
  | gap (g : List Char)
  | more (g p : List Char) (rest : Cutting)

namespace Cutting

/-- The text that is cut. -/
def text : Cutting → List Char
  | gap g => g
  | more g p rest => g ++ (p ++ rest.text)

def pieces : Cutting → List (List Char)
  | gap _ => []
  | more _ p rest => p :: rest.pieces

/-- What can follow a piece: the last gap, or a gap with a separator in it. -/
def Parted : Cutting → Prop
  | gap _ => True
  | more g _ _ => ∃ c ∈ g, isSeparator c = true

/-- Gaps are gaps, pieces are pieces, and a gap between two pieces holds a separator. -/
def Proper : Cutting → Prop
  | gap g => IsGap g
  | more g p rest => IsGap g ∧ IsPiece p ∧ rest.Parted ∧ rest.Proper

/-- The cutting with more in front of its first gap. -/
def widen (front : List Char) : Cutting → Cutting
  | gap g => gap (front ++ g)
  | more g p rest => more (front ++ g) p rest

variable {d : Cutting} {front : List Char}

@[simp] theorem text_widen : (d.widen front).text = front ++ d.text := by
  cases d <;> simp [widen, text]

@[simp] theorem pieces_widen : (d.widen front).pieces = d.pieces := by
  cases d <;> rfl

theorem Proper.widen (hd : d.Proper) (hfront : IsGap front) : (d.widen front).Proper := by
  have hgap : ∀ g, IsGap g → IsGap (front ++ g) := by
    intro g hg c hc
    exact (List.mem_append.1 hc).elim (hfront c) (hg c)
  cases d with
  | gap g => exact hgap g hd
  | more g p rest => exact ⟨hgap g hd.1, hd.2⟩

theorem Parted.widen (hd : d.Parted) : (d.widen front).Parted := by
  cases d with
  | gap g => trivial
  | more g p rest =>
    obtain ⟨c, hc, hsep⟩ := hd
    exact ⟨c, List.mem_append_right _ hc, hsep⟩

/-- Behind a separator anything can follow. -/
theorem parted_widen_of_mem (h : ∃ c ∈ front, isSeparator c = true) : (d.widen front).Parted := by
  cases d with
  | gap g => trivial
  | more g p rest =>
    obtain ⟨c, hc, hsep⟩ := h
    exact ⟨c, List.mem_append_left _ hc, hsep⟩

/-! ## One way -/

theorem takeWhile_gap {g : List Char} (hg : IsGap g) {p : List Char} (hp : IsPiece p)
    (t : List Char) : (g ++ (p ++ t)).takeWhile isEdge = g := by
  obtain ⟨c, q, rfl⟩ := List.exists_cons_of_ne_nil hp.ne_nil
  rw [List.takeWhile_append_of_pos hg, List.cons_append, List.takeWhile_cons,
    if_neg (by simp [hp.head_kept c rfl]), List.append_nil]

/-- What stands in front of the first separator behind a piece is dropped from its edge. -/
theorem takeWhile_piece {p : List Char} (hp : IsPiece p) (hd : d.Proper) (hparted : d.Parted) :
    ((p ++ d.text).takeWhile (!isSeparator ·)).rdropWhile isEdge = p := by
  have hkept : ∀ c ∈ p, (!isSeparator c) = true := fun c hc => by simp [hp.not_separator c hc]
  -- the separator of the first gap, if there is another piece, or the end of the text
  obtain ⟨g, hg, hstop⟩ : ∃ g, IsGap g ∧ d.text.takeWhile (!isSeparator ·) = g := by
    refine ⟨_, ?_, rfl⟩
    cases d with
    | gap g => exact fun c hc => hd c ((List.takeWhile_sublist _).subset hc)
    | more g q rest =>
      obtain ⟨c, hc, hsep⟩ := hparted
      have hshort : (g.takeWhile (!isSeparator ·)).length ≠ g.length := by
        intro hlen
        have hall := (List.takeWhile_prefix (!isSeparator ·)).eq_of_length hlen
        rw [← hall] at hc
        simpa [hsep] using List.mem_takeWhile_imp hc
      show IsGap (List.takeWhile _ (g ++ (q ++ rest.text)))
      rw [List.takeWhile_append, if_neg hshort]
      exact fun c hc => hd.1 c ((List.takeWhile_sublist _).subset hc)
  rw [List.takeWhile_append_of_pos hkept, hstop]
  have hedge : (p ++ g).rdropWhile isEdge = p.rdropWhile isEdge := by
    unfold List.rdropWhile
    rw [List.reverse_append, List.dropWhile_append_of_pos]
    exact fun c hc => hg c (List.mem_reverse.1 hc)
  rw [hedge, List.rdropWhile_eq_self_iff]
  intro hne
  simp [hp.last_kept _ (List.getLast?_eq_some_getLast hne)]

/-- A text is cut in one way only. -/
theorem Proper.eq_of_text_eq {d e : Cutting} (hd : d.Proper) (he : e.Proper)
    (h : d.text = e.text) : d = e := by
  -- a gap that is the whole text leaves no room for a piece
  have hwhole : ∀ {g g' p : List Char} {rest : Cutting}, IsGap g → IsPiece p →
      g ≠ g' ++ (p ++ rest.text) := by
    rintro g g' p rest hg hp rfl
    obtain ⟨c, q, rfl⟩ := List.exists_cons_of_ne_nil hp.ne_nil
    have hedge : isEdge c = true := hg c (by simp)
    rw [hp.head_kept c rfl] at hedge
    exact Bool.false_ne_true hedge
  induction d generalizing e with
  | gap g =>
    cases e with
    | gap g' => exact congrArg gap h
    | more g' p' rest' => exact absurd h (hwhole hd he.2.1)
  | more g p rest ih =>
    obtain ⟨hg, hp, hparted, hrest⟩ := hd
    cases e with
    | gap g' => exact absurd h.symm (hwhole he hp)
    | more g' p' rest' =>
      obtain ⟨hg', hp', hparted', hrest'⟩ := he
      change g ++ (p ++ rest.text) = g' ++ (p' ++ rest'.text) at h
      have hgap : g = g' := by
        rw [← takeWhile_gap hg hp rest.text, h, takeWhile_gap hg' hp' rest'.text]
      rw [hgap, List.append_cancel_left_eq] at h
      have hpiece : p = p' := by
        rw [← takeWhile_piece hp hrest hparted, h, takeWhile_piece hp' hrest' hparted']
      rw [hpiece, List.append_cancel_left_eq] at h
      rw [hgap, hpiece, ih hrest hrest' h]

/-! ## The tokens -/

/-- A text without separators, in front of one that has been cut. -/
theorem exists_append {s : List Char} (hs : ∀ c ∈ s, isSeparator c = false) (hd : d.Proper)
    (hparted : d.Parted) : ∃ e : Cutting, e.Proper ∧ e.text = s ++ d.text ∧
      e.pieces.map lowerWord = (normalizePiece s).toList ++ d.pieces.map lowerWord := by
  by_cases hne : trimEdges s = []
  · have hgap : IsGap s := by
      intro c hc
      by_contra hedge
      have hmem := mem_trimEdges_of_not_isEdge (Bool.eq_false_iff.2 hedge) hc
      rw [hne] at hmem
      exact List.not_mem_nil hmem
    have hnone : normalizePiece s = none := by
      unfold normalizePiece
      rw [hne]
    exact ⟨d.widen s, hd.widen hgap, text_widen, by simp [hnone]⟩
  · -- the edges that are trimmed go to the gaps on both sides
    have hpiece := isPiece_trimEdges hs hne
    let back := (s.dropWhile isEdge).rtakeWhile isEdge
    have hsplit : s.takeWhile isEdge ++ (trimEdges s ++ back) = s := by
      rw [trimEdges_eq, List.rdropWhile_append_rtakeWhile, List.takeWhile_append_dropWhile]
    have hback : IsGap back := fun c hc => List.mem_rtakeWhile_imp hc
    refine ⟨more (s.takeWhile isEdge) (trimEdges s) (d.widen back), ?_, ?_, ?_⟩
    · exact ⟨fun c hc => List.mem_takeWhile_imp hc, hpiece, hparted.widen, hd.widen hback⟩
    · rw [text, text_widen, ← List.append_assoc (trimEdges s), ← List.append_assoc, hsplit]
    · rw [normalizePiece_eq_some.2 ⟨hne, rfl⟩, pieces, pieces_widen]
      rfl

theorem exists_proper (s : List Char) : ∃ d : Cutting, d.Proper ∧ d.text = s ∧
    tokensOf s = d.pieces.map lowerWord := by
  induction s using separator_induction with
  | whole s hs =>
    have hempty : (gap []).Proper := fun c hc => absurd hc List.not_mem_nil
    obtain ⟨d, hd, htext, hpieces⟩ := exists_append hs hempty trivial
    rw [text, List.append_nil] at htext
    rw [pieces, List.map_nil, List.append_nil] at hpieces
    exact ⟨d, hd, htext, by rw [tokensOf_of_not_separator hs, hpieces]⟩
  | cut p c t hp hc ih =>
    obtain ⟨d, hd, rfl, htokens⟩ := ih
    have hgap : IsGap [c] := by
      intro b hb
      simp [List.mem_singleton.1 hb, isEdge, hc]
    have hparted : (d.widen [c]).Parted :=
      parted_widen_of_mem ⟨c, List.mem_singleton_self c, hc⟩
    obtain ⟨e, he, htext, hpieces⟩ := exists_append hp (hd.widen hgap) hparted
    refine ⟨e, he, ?_, ?_⟩
    · rw [htext, text_widen]
      rfl
    · rw [hpieces, pieces_widen, tokensOf_append_cons _ _ hc, tokensOf_of_not_separator hp, htokens]

/-- Letters, numbers and underscores stand in the pieces only. -/
theorem Proper.filter_text (hd : d.Proper) :
    d.text.filter isWordChar = d.pieces.flatten.filter isWordChar := by
  have hgap : ∀ {g : List Char}, IsGap g → g.filter isWordChar = [] := by
    intro g hg
    rw [List.filter_eq_nil_iff]
    intro c hc hword
    have hedge := hg c hc
    unfold isWordChar at hword
    rcases Bool.or_eq_true_iff.1 hword with halnum | hscore
    · rw [isEdge_of_isAlphanumeric halnum] at hedge
      exact Bool.false_ne_true hedge
    · rw [eq_of_beq hscore] at hedge
      revert hedge
      decide +kernel
  induction d with
  | gap g => exact hgap hd
  | more g p rest ih =>
    rw [text, pieces, List.flatten_cons, List.filter_append, List.filter_append, List.filter_append,
      hgap hd.1, ih hd.2.2.2, List.nil_append]

end Cutting

/-- Every text is cut into gaps and pieces in exactly one way.  Its tokens are the pieces in lower
case, in their order, and the pieces hold its letters, numbers and underscores, in their order. -/
theorem tokenize_eq_pieces (t : String) :
    ∃ d : Cutting, (d.Proper ∧ d.text = t.toList) ∧
      (∀ e : Cutting, e.Proper ∧ e.text = t.toList → e = d) ∧
      tokenize t = d.pieces.map (fun p => String.ofList (lowerWord p)) ∧
      t.toList.filter isWordChar = d.pieces.flatten.filter isWordChar := by
  obtain ⟨d, hd, htext, htokens⟩ := Cutting.exists_proper t.toList
  refine ⟨d, ⟨hd, htext⟩, ?_, ?_, ?_⟩
  · rintro e ⟨he, hetext⟩
    exact he.eq_of_text_eq hd (hetext.trans htext.symm)
  · unfold tokenize
    rw [htokens, List.map_map]
    rfl
  · rw [← htext]
    exact hd.filter_text

/-- Apostrophes stay inside a piece and go to the gaps at its edges; a gap may hold nothing else. -/
example : (Cutting.more ['\''] ['I', '\'', 'm'] (.more ['\'', ',', ' '] ['N', 'O']
    (.gap ['\'']))).text = "'I'm', NO'".toList ∧ tokenize "'I'm', NO'" = ["i'm", "no"] := by
  decide +kernel

end BargeIn.Text
