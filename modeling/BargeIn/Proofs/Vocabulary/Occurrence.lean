import Mathlib
import BargeIn.Proofs.Vocabulary.Hits

/-!
# What a vocabulary finds

An entry occurs in a list of tokens where it stands as a block of neighbours, and a place is covered
where it lies inside such a block.  The mask is made by a walk along the tokens; here is what it
marks, without the walk:

    (v.coverage tokens)[i] = true ↔ v.Covers tokens i    (getElem_coverage)

What is found in a part of the tokens is found in the whole (`matchesIn_subset`), and places that
are covered in two parts are covered in both together (`uncovered_append_eq_nil`).

Of a vocabulary that was made of configured texts the same is said by the texts alone, with `Heard`,
`Spanned` and `unspanned`.
-/

namespace BargeIn.Text

/-! ## Texts amid tokens -/

/-- A text that holds a token stands in `tokens` as a block of neighbours. -/
def Heard (texts tokens : List String) : Prop :=
  ∃ f ∈ texts, tokenize f ≠ [] ∧ tokenize f <:+: tokens

/-- Place `i` lies inside a block of `tokens` that one of the texts stands for. -/
def Spanned (texts tokens : List String) (i : Nat) : Prop :=
  ∃ g ∈ texts, ∃ k, k ≤ i ∧ i < k + (tokenize g).length ∧ tokenize g <+: tokens.drop k

instance (texts tokens : List String) : Decidable (Heard texts tokens) := by
  unfold Heard
  infer_instance

instance (texts tokens : List String) (i : Nat) : Decidable (Spanned texts tokens i) := by
  unfold Spanned
  infer_instance

/-- Place `i` lies inside a block of `tokens` that is `e`. -/
def InBlock (tokens e : List String) (i : Nat) : Prop :=
  ∃ k, k ≤ i ∧ i < k + e.length ∧ e <+: tokens.drop k

/-- The tokens at the places that lie inside no such block, in their order. -/
def unspanned (texts tokens : List String) : List String :=
  (tokens.zipIdx.filter fun p => ¬Spanned texts tokens p.2).map Prod.fst

namespace InBlock

variable {tokens more e : List String} {i : Nat}

theorem lt_length (h : InBlock tokens e i) : i < tokens.length := by
  obtain ⟨k, hk, hi, hbegins⟩ := h
  have hlength := hbegins.length_le
  rw [List.length_drop] at hlength
  omega

theorem ne_nil (h : InBlock tokens e i) : e ≠ [] := by
  obtain ⟨k, hk, hi, -⟩ := h
  rintro rfl
  rw [List.length_nil] at hi
  omega

theorem append_right (h : InBlock tokens e i) : InBlock (tokens ++ more) e i := by
  have hlt := h.lt_length
  obtain ⟨k, hk, hi, hbegins⟩ := h
  refine ⟨k, hk, hi, ?_⟩
  rw [List.drop_append_of_le_length (by omega)]
  exact hbegins.trans (List.prefix_append _ _)

theorem append_left (h : InBlock tokens e i) : InBlock (more ++ tokens) e (more.length + i) := by
  obtain ⟨k, hk, hi, hbegins⟩ := h
  refine ⟨more.length + k, by omega, by omega, ?_⟩
  rwa [List.drop_append, List.drop_eq_nil_of_le (by omega), List.nil_append,
    Nat.add_sub_cancel_left]

end InBlock

end BargeIn.Text

namespace BargeIn.Vocabulary

open BargeIn.Text

/-! ## Coverage -/

/-- Place `i` lies inside a block of `tokens` that is an entry. -/
def Covers (v : Vocabulary) (tokens : List String) (i : Nat) : Prop :=
  ∃ e ∈ v.entries, ∃ k, k ≤ i ∧ i < k + e.length ∧ e <+: tokens.drop k

theorem lt_foldr_max {n : Nat} {l : List Nat} : n < l.foldr max 0 ↔ ∃ m ∈ l, n < m := by
  induction l with
  | nil => simp
  | cons a l ih => simp [ih]

theorem lt_reach {v : Vocabulary} {tokens : List String} {n : Nat} :
    n < v.reach tokens ↔ ∃ e ∈ v.entries, n < e.length ∧ e <+: tokens := by
  unfold reach
  rw [lt_foldr_max]
  constructor
  · rintro ⟨m, hm, hn⟩
    obtain ⟨e, he, rfl⟩ := List.mem_map.1 hm
    rw [List.mem_filter, List.isPrefixOf_iff_prefix] at he
    exact ⟨e, he.1, hn, he.2⟩
  · rintro ⟨e, he, hn, hp⟩
    refine ⟨e.length, List.mem_map.2 ⟨e, ?_, rfl⟩, hn⟩
    rw [List.mem_filter, List.isPrefixOf_iff_prefix]
    exact ⟨he, hp⟩

theorem covers_zero {v : Vocabulary} {tokens : List String} :
    v.Covers tokens 0 ↔ 0 < v.reach tokens := by
  rw [lt_reach]
  constructor
  · rintro ⟨e, he, k, hk, hl, hp⟩
    obtain rfl : k = 0 := by omega
    exact ⟨e, he, by omega, hp⟩
  · rintro ⟨e, he, hl, hp⟩
    exact ⟨e, he, 0, by omega, by omega, hp⟩

theorem covers_cons_succ {v : Vocabulary} {t : String} {rest : List String} {i : Nat} :
    v.Covers (t :: rest) (i + 1) ↔ i + 1 < v.reach (t :: rest) ∨ v.Covers rest i := by
  rw [lt_reach]
  constructor
  · rintro ⟨e, he, k, hk, hl, hp⟩
    cases k with
    | zero => exact Or.inl ⟨e, he, by omega, hp⟩
    | succ k => exact Or.inr ⟨e, he, k, by omega, by omega, hp⟩
  · rintro (⟨e, he, hl, hp⟩ | ⟨e, he, k, hk, hl, hp⟩)
    · exact ⟨e, he, 0, by omega, by omega, hp⟩
    · exact ⟨e, he, k + 1, by omega, by omega, hp⟩

theorem getElem_coverFrom (v : Vocabulary) (left : Nat) (tokens : List String) (i : Nat)
    (h : i < (v.coverFrom left tokens).length) :
    (v.coverFrom left tokens)[i] = true ↔ i < left ∨ v.Covers tokens i := by
  induction tokens generalizing left i with
  | nil => simp [coverFrom] at h
  | cons t rest ih =>
    cases i with
    | zero =>
      simp only [coverFrom, List.getElem_cons_zero, decide_eq_true_eq]
      rw [covers_zero, lt_max_iff]
    | succ i =>
      simp only [coverFrom, List.getElem_cons_succ]
      rw [ih, covers_cons_succ]
      -- one of the `left` tokens is used up by `t`
      have hleft : i < max left (v.reach (t :: rest)) - 1 ↔
          i + 1 < left ∨ i + 1 < v.reach (t :: rest) := by omega
      rw [hleft, or_assoc]

theorem getElem_coverage (v : Vocabulary) (tokens : List String) (i : Nat)
    (h : i < (v.coverage tokens).length) :
    (v.coverage tokens)[i] = true ↔ v.Covers tokens i :=
  (v.getElem_coverFrom 0 tokens i h).trans (by simp)

theorem getElem?_coverage (v : Vocabulary) (tokens : List String) (i : Nat) :
    (v.coverage tokens)[i]? = some true ↔ v.Covers tokens i := by
  constructor
  · intro h
    obtain ⟨hi, hmark⟩ := List.getElem?_eq_some_iff.1 h
    exact (v.getElem_coverage tokens i hi).1 hmark
  · intro h
    have hi : i < (v.coverage tokens).length := by
      obtain ⟨e, -, hblock⟩ := id h
      rw [length_coverage]
      exact InBlock.lt_length hblock
    exact List.getElem?_eq_some_iff.2 ⟨hi, (v.getElem_coverage tokens i hi).2 h⟩

open Classical in
/-- The mask, place by place. -/
theorem coverage_eq_map (v : Vocabulary) (tokens : List String) :
    v.coverage tokens = tokens.zipIdx.map fun p => decide (v.Covers tokens p.2) := by
  apply List.ext_getElem
  · simp
  · intro i h₁ h₂
    rw [List.getElem_map, List.getElem_zipIdx, Bool.eq_iff_iff, getElem_coverage]
    simp

open Classical in
/-- What is left are the tokens at the places that are not covered, in their order. -/
theorem uncovered_eq (v : Vocabulary) (tokens : List String) :
    v.uncovered tokens =
      (tokens.zipIdx.filter fun p => decide (¬v.Covers tokens p.2)).map Prod.fst := by
  have hz : tokens.zip (v.coverage tokens) =
      tokens.zipIdx.map fun p => (p.1, decide (v.Covers tokens p.2)) := by
    apply List.ext_getElem
    · simp
    · intro i h₁ h₂
      simp [coverage_eq_map]
  rw [uncovered, hz, List.filter_map, List.map_map]
  congr 1
  apply List.filter_congr
  intro p _
  simp

theorem uncovered_eq_nil {v : Vocabulary} {tokens : List String} :
    v.uncovered tokens = [] ↔ ∀ i, i < tokens.length → v.Covers tokens i := by
  classical
  rw [uncovered_eq, List.map_eq_nil_iff, List.filter_eq_nil_iff]
  constructor
  · intro h i hi
    have hmem : (tokens[i], i) ∈ tokens.zipIdx := by
      rw [List.mem_zipIdx_iff_getElem?]
      simp [hi]
    simpa using h _ hmem
  · rintro h ⟨t, i⟩ hmem
    rw [List.mem_zipIdx_iff_getElem?] at hmem
    obtain ⟨hi, -⟩ := List.getElem?_eq_some_iff.1 hmem
    simpa using h i hi

section

variable {v w : Vocabulary} {tokens : List String}
  (h : ∀ i, v.Covers tokens i ↔ w.Covers tokens i)

include h

/-- The mask depends only on the places that are covered. -/
theorem coverage_congr : v.coverage tokens = w.coverage tokens := by
  rw [coverage_eq_map, coverage_eq_map]
  refine List.map_congr_left fun p _ => ?_
  rw [decide_eq_decide]
  exact h p.2

theorem uncovered_congr : v.uncovered tokens = w.uncovered tokens := by
  unfold uncovered
  rw [coverage_congr h]

end

/-- What is left are tokens in their order. -/
theorem uncovered_sublist (v : Vocabulary) (tokens : List String) :
    (v.uncovered tokens).Sublist tokens := by
  have hall : (tokens.zip (v.coverage tokens)).map Prod.fst = tokens :=
    List.map_fst_zip (by simp)
  unfold uncovered
  conv => rhs; rw [← hall]
  exact List.filter_sublist.map Prod.fst

/-! ## Parts of what is said -/

/-- What is found in a part is found in the whole. -/
theorem matchesIn_subset {part whole : List String} (v : Vocabulary) (h : part <:+: whole) :
    v.matchesIn part ⊆ v.matchesIn whole := by
  intro s hs
  obtain ⟨e, he, hne, hinfix, rfl⟩ := mem_matchesIn.1 hs
  exact mem_matchesIn.2 ⟨e, he, hne, hinfix.trans h, rfl⟩

/-- Places that are covered in a part are covered in the whole. -/
theorem uncovered_append_eq_nil {v : Vocabulary} {front back : List String}
    (hfront : v.uncovered front = []) (hback : v.uncovered back = []) :
    v.uncovered (front ++ back) = [] := by
  rw [uncovered_eq_nil] at hfront hback ⊢
  intro i hi
  by_cases h : i < front.length
  · obtain ⟨e, he, hblock⟩ := hfront i h
    exact ⟨e, he, InBlock.append_right hblock⟩
  · obtain ⟨j, rfl⟩ := Nat.exists_eq_add_of_le (Nat.le_of_not_lt h)
    rw [List.length_append] at hi
    obtain ⟨e, he, hblock⟩ := hback j (by omega)
    exact ⟨e, he, InBlock.append_left hblock⟩

/-! ## Vocabularies of configured texts -/

theorem matchesIn_ofTexts_eq_nil {texts tokens : List String} :
    (ofTexts texts).matchesIn tokens = [] ↔ ¬Heard texts tokens := by
  constructor
  · rintro h ⟨f, hf, hne, hi⟩
    have hentry := mem_entries_ofTexts.2 ⟨hne, f, hf, rfl⟩
    have hmem : joinTokens (tokenize f) ∈ (ofTexts texts).matchesIn tokens :=
      mem_matchesIn.2 ⟨tokenize f, hentry, hne, hi, rfl⟩
    rw [h] at hmem
    exact List.not_mem_nil hmem
  · intro h
    apply matchesIn_eq_nil
    intro e he hi
    obtain ⟨hne, f, hf, rfl⟩ := mem_entries_ofTexts.1 he
    exact h ⟨f, hf, hne, hi⟩

theorem covers_ofTexts {texts tokens : List String} {i : Nat} :
    (ofTexts texts).Covers tokens i ↔ Spanned texts tokens i := by
  constructor
  · rintro ⟨e, he, hblock⟩
    obtain ⟨-, g, hg, rfl⟩ := mem_entries_ofTexts.1 he
    exact ⟨g, hg, hblock⟩
  · rintro ⟨g, hg, hblock⟩
    exact ⟨tokenize g, mem_entries_ofTexts.2 ⟨InBlock.ne_nil hblock, g, hg, rfl⟩, hblock⟩

theorem uncovered_ofTexts (texts tokens : List String) :
    (ofTexts texts).uncovered tokens = unspanned texts tokens := by
  rw [uncovered_eq, unspanned]
  congr 1
  apply List.filter_congr
  intro p _
  rw [decide_eq_decide, covers_ofTexts]

theorem uncovered_ofTexts_eq_nil {texts tokens : List String} :
    (ofTexts texts).uncovered tokens = [] ↔ ∀ i, i < tokens.length → Spanned texts tokens i := by
  rw [uncovered_eq_nil]
  exact forall₂_congr fun i _ => covers_ofTexts

end BargeIn.Vocabulary
