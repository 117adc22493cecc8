/-!
# Listings

Two ways to list entries: each once, in the order in which it is first seen, and ascending by a key,
where entries of one key stay in their order.  `mem_firstSeen` and `nodup_firstSeen` say that the
first keeps exactly the entries of the list, each once; `perm_sortBy` that the second loses and
repeats none.
-/

namespace BargeIn

/-! ## Algorithm -/

/-- The entries of a list, each at the place where it is first seen. -/
def firstSeen {α : Type} [DecidableEq α] : List α → List α
  | [] => []
  | a :: rest => a :: (firstSeen rest).filter (· ≠ a)

section

variable {α κ : Type} [LT κ] [DecidableLT κ]

/-- Puts `a` in front of the first entry of no lesser key. -/
def insertBy (key : α → κ) (a : α) : List α → List α
  | [] => [a]
  | b :: rest => if key b < key a then b :: insertBy key a rest else a :: b :: rest

/-- The entries in ascending order of their keys; those of one key stay in their order. -/
def sortBy (key : α → κ) : List α → List α
  | [] => []
  | a :: rest => insertBy key a (sortBy key rest)

end

/-- The entries in ascending order by code points. -/
def sorted : List String → List String := sortBy id

/-! ## Lemmas -/

@[simp] theorem mem_firstSeen {α : Type} [DecidableEq α] {a : α} {l : List α} :
    a ∈ firstSeen l ↔ a ∈ l := by
  induction l with
  | nil => simp [firstSeen]
  | cons b l ih =>
    by_cases h : a = b
    · simp [firstSeen, h]
    · simp [firstSeen, h, ih]

theorem nodup_firstSeen {α : Type} [DecidableEq α] (l : List α) : (firstSeen l).Nodup := by
  induction l with
  | nil => simp [firstSeen]
  | cons b l ih =>
    rw [firstSeen, List.nodup_cons]
    exact ⟨by simp, List.Pairwise.filter _ ih⟩

/-- Where nothing is repeated, everything is seen first. -/
theorem firstSeen_of_nodup {α : Type} [DecidableEq α] {l : List α} (h : l.Nodup) :
    firstSeen l = l := by
  induction l with
  | nil => rfl
  | cons a l ih =>
    obtain ⟨ha, hl⟩ := List.nodup_cons.1 h
    rw [firstSeen, ih hl, List.filter_eq_self.2]
    intro b hb
    have hne : b ≠ a := by
      rintro rfl
      exact ha hb
    simpa using hne

theorem filter_firstSeen {α : Type} [DecidableEq α] (p : α → Bool) (l : List α) :
    (firstSeen l).filter p = firstSeen (l.filter p) := by
  induction l with
  | nil => rfl
  | cons a l ih =>
    rw [firstSeen, List.filter_cons, List.filter_cons, List.filter_filter]
    cases hp : p a with
    | true =>
      rw [if_pos rfl, if_pos rfl, firstSeen, ← ih, List.filter_filter]
      congr 1
      exact List.filter_congr fun b _ => Bool.and_comm _ _
    | false =>
      rw [if_neg (by simp), if_neg (by simp), ← ih]
      refine List.filter_congr fun b _ => ?_
      by_cases hb : b = a
      · simp [hb, hp]
      · simp [hb]

/-- What is listed once is not seen twice by a function that maps it. -/
theorem firstSeen_map_firstSeen {α β : Type} [DecidableEq α] [DecidableEq β] (f : α → β)
    (l : List α) : firstSeen ((firstSeen l).map f) = firstSeen (l.map f) := by
  induction l with
  | nil => rfl
  | cons a l ih =>
    have hf : (((firstSeen l).filter (· ≠ a)).map f).filter (· ≠ f a) =
        ((firstSeen l).map f).filter (· ≠ f a) := by
      rw [List.filter_map, List.filter_map, List.filter_filter]
      congr 1
      refine List.filter_congr fun b _ => ?_
      by_cases hb : b = a
      · simp [hb]
      · simp [hb]
    simp only [firstSeen, List.map_cons]
    rw [filter_firstSeen, hf, ← filter_firstSeen, ih]

/-- Where a function tells the entries apart, so do its values. -/
theorem firstSeen_map {α β : Type} [DecidableEq α] [DecidableEq β] {f : α → β} {l : List α}
    (h : ∀ a ∈ l, ∀ b ∈ l, f a = f b → a = b) : firstSeen (l.map f) = (firstSeen l).map f := by
  rw [← firstSeen_map_firstSeen, firstSeen_of_nodup]
  refine List.pairwise_map.2 ((nodup_firstSeen l).imp_of_mem ?_)
  intro a b ha hb hne hf
  exact hne (h a (mem_firstSeen.1 ha) b (mem_firstSeen.1 hb) hf)

/-- The order is that of the first sights. -/
theorem pairwise_firstSeen {α : Type} [DecidableEq α] [BEq α] [LawfulBEq α] (l : List α) :
    (firstSeen l).Pairwise fun a b => l.idxOf a < l.idxOf b := by
  induction l with
  | nil => exact .nil
  | cons a l ih =>
    have hlater : ∀ {b}, b ∈ (firstSeen l).filter (· ≠ a) →
        (a :: l).idxOf b = l.idxOf b + 1 := by
      intro b hb
      have hne : b ≠ a := by simpa using (List.mem_filter.1 hb).2
      rw [List.idxOf_cons, beq_eq_false_iff_ne.2 hne.symm, cond_false]
    rw [firstSeen, List.pairwise_cons]
    constructor
    · intro b hb
      rw [hlater hb, List.idxOf_cons_self]
      exact Nat.succ_pos _
    · refine (List.Pairwise.filter _ ih).imp_of_mem ?_
      intro b c hb hc hlt
      rw [hlater hb, hlater hc]
      exact Nat.succ_lt_succ hlt

section

variable {α β κ : Type} [LT κ] [DecidableLT κ]

theorem perm_insertBy (key : α → κ) (a : α) (l : List α) : (insertBy key a l).Perm (a :: l) := by
  induction l with
  | nil => exact .refl _
  | cons b l ih =>
    unfold insertBy
    split
    · exact (ih.cons b).trans (.swap a b l)
    · exact .refl _

theorem perm_sortBy (key : α → κ) (l : List α) : (sortBy key l).Perm l := by
  induction l with
  | nil => exact .refl _
  | cons a l ih => exact (perm_insertBy key a _).trans (ih.cons a)

theorem insertBy_map (key : β → κ) (f : α → β) (a : α) (l : List α) :
    insertBy key (f a) (l.map f) = (insertBy (key ∘ f) a l).map f := by
  induction l with
  | nil => rfl
  | cons b l ih =>
    simp only [List.map_cons, insertBy, Function.comp_apply]
    split
    · rw [ih, List.map_cons]
    · rfl

/-- A function that leaves the key of every entry alone can be mapped afterwards. -/
theorem sortBy_map (key : β → κ) (f : α → β) (l : List α) :
    sortBy key (l.map f) = (sortBy (key ∘ f) l).map f := by
  induction l with
  | nil => rfl
  | cons a l ih => rw [List.map_cons, sortBy, sortBy, ih, insertBy_map]

end

theorem perm_sorted (l : List String) : (sorted l).Perm l := perm_sortBy id l

end BargeIn
