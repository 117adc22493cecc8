import Mathlib
import BargeIn.Proofs.Vocabulary.FirstPlace

/-!
# Marking entry by entry

`coverage` walks along the tokens once.  The same mask can be made entry by entry: a word marks the
places where it stands, and a phrase is laid against the tokens at every place from which it does
not run past their end, and marks the block where it fits.  Such a procedure could go wrong at its
indices.  So a difference that would be negative has no value below, nor has a slice that leaves its
list; `marking?_eq` says that none of them comes up, and that the mask is the same.
-/

namespace BargeIn.Vocabulary

open BargeIn.Text

/-! ## Algorithm -/

/-- `m - n`, if it is not negative. -/
def difference? (m n : Nat) : Option Nat := if n ≤ m then some (m - n) else none

/-- The part of a list from one place up to another, if the list goes so far. -/
def slice? {α : Type} (l : List α) (start stop : Nat) : Option (List α) :=
  if start ≤ stop ∧ stop ≤ l.length then some ((l.drop start).take (stop - start)) else none

/-- The mask with marks in one part, if it goes so far. -/
def fill? (mask : List Bool) (start stop : Nat) : Option (List Bool) :=
  if start ≤ stop ∧ stop ≤ mask.length then
    some (mask.take start ++ (List.replicate (stop - start) true ++ mask.drop stop))
  else none

/-- Marks the block `e` if it stands at one place. -/
def markAt? (tokens e : List String) (mask : List Bool) (start : Nat) : Option (List Bool) := do
  let block ← slice? tokens start (start + e.length)
  if block = e then fill? mask start (start + e.length) else some mask

/-- Marks the block `e` wherever it stands. -/
def markPhrase? (tokens : List String) (mask : List Bool) (e : List String) : Option (List Bool) :=
  if tokens.length < e.length then some mask
  else do
    let last ← difference? tokens.length e.length
    (List.range (last + 1)).foldlM (markAt? tokens e) mask

/-- The mask of the words, in which every phrase is marked. -/
def marking? (v : Vocabulary) (tokens : List String) : Option (List Bool) :=
  v.phrases.foldlM (markPhrase? tokens) (tokens.map v.hasWord)

/-! ## Marks -/

/-- The result has a value: the mask with marks at the places of `P`, and nothing else changed. -/
def Marks (P : Nat → Prop) (mask : List Bool) (result : Option (List Bool)) : Prop :=
  ∃ after, result = some after ∧ after.length = mask.length ∧
    ∀ i : Nat, after[i]? = some true ↔ mask[i]? = some true ∨ P i

theorem Marks.congr {P Q : Nat → Prop} {mask : List Bool} {result : Option (List Bool)}
    (h : Marks P mask result) (hPQ : ∀ i, P i ↔ Q i) : Marks Q mask result := by
  obtain ⟨after, hresult, hlength, hmarked⟩ := h
  exact ⟨after, hresult, hlength, fun i => by rw [hmarked, hPQ]⟩

theorem marks_self {P : Nat → Prop} {mask : List Bool} (hP : ∀ i, ¬P i) :
    Marks P mask (some mask) :=
  ⟨mask, rfl, rfl, fun i => by simp [hP i]⟩

/-- Where every step marks its places, a run of them marks the places of all. -/
theorem marks_foldlM {β : Type} {step : List Bool → β → Option (List Bool)}
    {P : β → Nat → Prop} {n : Nat} {l : List β}
    (hstep : ∀ b ∈ l, ∀ mask : List Bool, mask.length = n → Marks (P b) mask (step mask b))
    {mask : List Bool} (hmask : mask.length = n) :
    Marks (fun i => ∃ b ∈ l, P b i) mask (l.foldlM step mask) := by
  induction l generalizing mask with
  | nil => exact marks_self (by simp)
  | cons b l ih =>
    obtain ⟨next, hnext, hlength, hmarked⟩ := hstep b List.mem_cons_self mask hmask
    obtain ⟨after, hafter, hlength', hmarked'⟩ :=
      ih (fun c hc => hstep c (List.mem_cons_of_mem _ hc)) (hlength.trans hmask)
    refine ⟨after, ?_, hlength'.trans hlength, fun i => ?_⟩
    · rw [List.foldlM_cons, hnext]
      exact hafter
    · rw [hmarked', hmarked, or_assoc]
      simp

theorem marks_fill {mask : List Bool} {start stop : Nat} (hle : start ≤ stop)
    (hstop : stop ≤ mask.length) :
    Marks (fun i => start ≤ i ∧ i < stop) mask (fill? mask start stop) := by
  refine ⟨_, if_pos ⟨hle, hstop⟩, ?_, fun i => ?_⟩
  · simp only [List.length_append, List.length_take, List.length_replicate, List.length_drop]
    omega
  · rw [List.getElem?_append, List.getElem?_append, List.getElem?_take, List.getElem?_replicate,
      List.getElem?_drop, List.length_take, List.length_replicate, Nat.min_eq_left (by omega)]
    -- before, inside and behind the part
    by_cases hi : i < start
    · simp [hi]
    · by_cases hs : i < stop
      · simp [hi, hs, show i - start < stop - start by omega, show start ≤ i by omega]
      · have hplace : stop + (i - start - (stop - start)) = i := by omega
        simp [hi, hs, hplace, show ¬i - start < stop - start by omega]

theorem marks_markAt {tokens e : List String} {mask : List Bool} {start : Nat}
    (hstart : start + e.length ≤ tokens.length) (hmask : mask.length = tokens.length) :
    Marks (fun i => start ≤ i ∧ i < start + e.length ∧ e <+: tokens.drop start) mask
      (markAt? tokens e mask start) := by
  have hslice : slice? tokens start (start + e.length) =
      some ((tokens.drop start).take e.length) := by
    rw [slice?, if_pos ⟨by omega, hstart⟩, Nat.add_sub_cancel_left]
  unfold markAt?
  rw [hslice, Option.bind_eq_bind, Option.bind_some]
  by_cases hblock : (tokens.drop start).take e.length = e
  · have hbegins : e <+: tokens.drop start := List.prefix_iff_eq_take.2 hblock.symm
    rw [if_pos hblock]
    exact (marks_fill (Nat.le_add_right start e.length) (hmask ▸ hstart)).congr
      fun i => by simp [hbegins]
  · rw [if_neg hblock]
    refine marks_self ?_
    rintro i ⟨-, -, hbegins⟩
    exact hblock (List.prefix_iff_eq_take.1 hbegins).symm

/-- A phrase is laid against every place where it can begin, and against no other. -/
theorem marks_markPhrase {tokens e : List String} {mask : List Bool}
    (hmask : mask.length = tokens.length) :
    Marks (InBlock tokens e) mask (markPhrase? tokens mask e) := by
  have hfits : ∀ {i k : Nat}, k ≤ i → i < k + e.length → e <+: tokens.drop k →
      k + e.length ≤ tokens.length := by
    intro i k hk hi hbegins
    have hlength := hbegins.length_le
    rw [List.length_drop] at hlength
    omega
  unfold markPhrase?
  by_cases hlong : tokens.length < e.length
  · rw [if_pos hlong]
    refine marks_self ?_
    rintro i ⟨k, hk, hi, hbegins⟩
    have := hfits hk hi hbegins
    omega
  · rw [if_neg hlong, difference?, if_pos (Nat.le_of_not_lt hlong), Option.bind_eq_bind,
      Option.bind_some]
    have hstep : ∀ start ∈ List.range (tokens.length - e.length + 1), ∀ mask : List Bool,
        mask.length = tokens.length →
          Marks (fun i => start ≤ i ∧ i < start + e.length ∧ e <+: tokens.drop start) mask
            (markAt? tokens e mask start) := by
      intro start hstart mask hmask
      rw [List.mem_range] at hstart
      exact marks_markAt (by omega) hmask
    refine (marks_foldlM hstep hmask).congr fun i => ?_
    constructor
    · rintro ⟨k, -, hblock⟩
      exact ⟨k, hblock⟩
    · rintro ⟨k, hk, hi, hbegins⟩
      have := hfits hk hi hbegins
      exact ⟨k, List.mem_range.2 (by omega), hk, hi, hbegins⟩

theorem marks_marking (v : Vocabulary) (tokens : List String) :
    Marks (fun i => ∃ e ∈ v.phrases, InBlock tokens e i) (tokens.map v.hasWord)
      (v.marking? tokens) := by
  have hwords : (tokens.map v.hasWord).length = tokens.length := List.length_map _
  exact marks_foldlM (fun e _ mask hmask => marks_markPhrase hmask) hwords

/-! ## The same mask -/

/-- A token is a word of the vocabulary if the entry that begins and ends there is one. -/
theorem getElem?_map_hasWord {v : Vocabulary} {tokens : List String} {i : Nat} :
    (tokens.map v.hasWord)[i]? = some true ↔
      ∃ e ∈ v.entries, e.length = 1 ∧ InBlock tokens e i := by
  rw [List.getElem?_map, Option.map_eq_some_iff]
  constructor
  · rintro ⟨t, ht, hword⟩
    obtain ⟨hi, rfl⟩ := List.getElem?_eq_some_iff.1 ht
    refine ⟨[tokens[i]], List.contains_iff_mem.1 hword, rfl, i, le_rfl, by simp, ?_⟩
    rw [List.drop_eq_getElem_cons hi]
    exact ⟨tokens.drop (i + 1), rfl⟩
  · rintro ⟨e, he, hlength, k, hk, hi, rest, hrest⟩
    obtain ⟨t, rfl⟩ := List.length_eq_one_iff.1 hlength
    rw [List.length_singleton] at hi
    obtain rfl : k = i := by omega
    refine ⟨t, ?_, List.contains_iff_mem.2 he⟩
    rw [← List.head?_drop, ← hrest]
    rfl

theorem covers_iff_word_or_phrase {v : Vocabulary} {tokens : List String} {i : Nat} :
    v.Covers tokens i ↔ (tokens.map v.hasWord)[i]? = some true ∨
      ∃ e ∈ v.phrases, InBlock tokens e i := by
  rw [getElem?_map_hasWord]
  unfold phrases
  constructor
  · rintro ⟨e, he, hblock⟩
    obtain ⟨k, hk, hi, -⟩ := id hblock
    by_cases hlength : e.length = 1
    · exact Or.inl ⟨e, he, hlength, hblock⟩
    · exact Or.inr ⟨e, List.mem_filter.2 ⟨he, decide_eq_true (by omega)⟩, hblock⟩
  · rintro (⟨e, he, -, hblock⟩ | ⟨e, he, hblock⟩)
    · exact ⟨e, he, hblock⟩
    · exact ⟨e, (List.mem_filter.1 he).1, hblock⟩

/-- Entry by entry every index has a value, and the mask is that of the walk along the tokens. -/
theorem marking?_eq (v : Vocabulary) (tokens : List String) :
    v.marking? tokens = some (v.coverage tokens) := by
  obtain ⟨mask, hmask, hlength, hmarked⟩ := v.marks_marking tokens
  have hsame : ∀ i : Nat, mask[i]? = some true ↔ (v.coverage tokens)[i]? = some true := by
    intro i
    rw [hmarked, getElem?_coverage, covers_iff_word_or_phrase]
  rw [List.length_map, ← v.length_coverage tokens] at hlength
  rw [hmask, Option.some_inj]
  refine List.ext_getElem hlength fun i hi hi' => ?_
  have hmark := hsame i
  rw [List.getElem?_eq_getElem hi, List.getElem?_eq_getElem hi'] at hmark
  simpa using hmark

/-! ## Vocabularies of configured texts -/

theorem exists_spanned_iff {texts tokens : List String} :
    (∃ i, Spanned texts tokens i) ↔ Heard texts tokens := by
  constructor
  · rintro ⟨i, g, hg, hblock⟩
    obtain ⟨k, -, -, hbegins⟩ := id hblock
    exact ⟨g, hg, InBlock.ne_nil hblock, hbegins.isInfix.trans (List.drop_suffix k tokens).isInfix⟩
  · rintro ⟨g, hg, hne, hinfix⟩
    have hpos := List.length_pos_of_ne_nil hne
    exact ⟨_, g, hg, _, le_rfl, by omega, (isLeast_firstPlace hinfix).1⟩

/-- The mask has a place for every token, and marks those that lie inside a block of tokens that one
of the texts stands for.  It can be made entry by entry without an index that leaves its list, and
it has a mark exactly when something is found. -/
theorem coverage_ofTexts (texts tokens : List String) :
    let v := ofTexts texts
    (v.coverage tokens).length = tokens.length ∧
    (∀ i, (v.coverage tokens)[i]? = some true ↔ Spanned texts tokens i) ∧
    v.marking? tokens = some (v.coverage tokens) ∧
    (true ∈ v.coverage tokens ↔ v.matchesIn tokens ≠ []) := by
  intro v
  have hplace : ∀ i, (v.coverage tokens)[i]? = some true ↔ Spanned texts tokens i :=
    fun i => (v.getElem?_coverage tokens i).trans covers_ofTexts
  refine ⟨v.length_coverage tokens, hplace, v.marking?_eq tokens, ?_⟩
  calc true ∈ v.coverage tokens
      ↔ ∃ i, Spanned texts tokens i := by simp only [List.mem_iff_getElem?, hplace]
    _ ↔ Heard texts tokens := exists_spanned_iff
    _ ↔ v.matchesIn tokens ≠ [] := by rw [Ne, matchesIn_ofTexts_eq_nil, not_not]

/-- A phrase may overlap itself, and one that is longer than what is said is not looked for. -/
example : (ofTexts ["no no", "um", "no no no no no"]).marking? ["no", "no", "no", "yes"] =
    some [true, true, true, false] := by
  decide +kernel

end BargeIn.Vocabulary
