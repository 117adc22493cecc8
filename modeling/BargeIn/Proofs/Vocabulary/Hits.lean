import Mathlib
import BargeIn.Vocabulary

/-!
# Hits

What a vocabulary finds goes through three hands: the hits are gathered, words before phrases, they
are sorted by their places, and what is seen again is dropped.  Here the three are followed with the
entries in place of their texts (`found`), and what comes out is said without them:

    e ∈ v.found tokens ↔ e ∈ v.entries ∧ e ≠ [] ∧ e <:+: tokens    (mem_found)
    (v.found tokens).Pairwise (Precedes R tokens)                  (pairwise_found)

The order comes from the sort, which leaves ties alone (`pairwise_sortBy`): so what was gathered
first comes first of what is hit at one place.
-/

namespace BargeIn

/-! ## Sorting by a key -/

section

variable {α κ : Type}

/-- Of lesser key; or of the same, and in the relation `R`. -/
def ByKey [LT κ] (key : α → κ) (R : α → α → Prop) (a b : α) : Prop :=
  key a < key b ∨ key a = key b ∧ R a b

variable [LinearOrder κ] {key : α → κ} {R : α → α → Prop}

theorem ByKey.le {a b : α} (h : ByKey key R a b) : key a ≤ key b := by
  rcases h with hlt | ⟨heq, -⟩
  · exact le_of_lt hlt
  · exact le_of_eq heq

variable [DecidableLT κ]

theorem pairwise_insertBy {a : α} {l : List α} (ha : ∀ b ∈ l, key a = key b → R a b)
    (h : l.Pairwise (ByKey key R)) : (insertBy key a l).Pairwise (ByKey key R) := by
  induction l with
  | nil => exact List.pairwise_singleton _ a
  | cons b l ih =>
    obtain ⟨hb, hl⟩ := List.pairwise_cons.1 h
    unfold insertBy
    by_cases hlt : key b < key a
    · rw [if_pos hlt, List.pairwise_cons]
      refine ⟨fun c hc => ?_, ih (fun c hc => ha c (List.mem_cons_of_mem b hc)) hl⟩
      rcases List.mem_cons.1 ((perm_insertBy key a l).mem_iff.1 hc) with rfl | hc
      · exact Or.inl hlt
      · exact hb c hc
    · rw [if_neg hlt, List.pairwise_cons]
      refine ⟨fun c hc => ?_, h⟩
      have hle : key a ≤ key c := by
        rcases List.mem_cons.1 hc with rfl | hcl
        · exact le_of_not_gt hlt
        · exact (le_of_not_gt hlt).trans (hb c hcl).le
      exact hle.lt_or_eq.imp_right fun heq => ⟨heq, ha c hc heq⟩

/-- Sorting leaves ties alone: they stay in the order `R` if they were so. -/
theorem pairwise_sortBy (key : α → κ) {l : List α}
    (h : l.Pairwise fun a b => key a = key b → R a b) :
    (sortBy key l).Pairwise (ByKey key R) := by
  induction l with
  | nil => exact .nil
  | cons a l ih =>
    obtain ⟨ha, hl⟩ := List.pairwise_cons.1 h
    exact pairwise_insertBy (fun b hb => ha b ((perm_sortBy key l).mem_iff.1 hb)) (ih hl)

end

/-- Of the entries that a function takes to one value the first is seen, before all the others. -/
theorem exists_sublist_firstSeen {α β : Type} [DecidableEq β] {S : α → α → Prop} (f : α → β)
    {l : List α} (h : l.Pairwise S) : ∃ seen : List α, seen.Sublist l ∧
      firstSeen (l.map f) = seen.map f ∧
      ∀ a ∈ seen, ∀ b ∈ l, f b = f a → b = a ∨ S a b := by
  induction l with
  | nil => exact ⟨[], .slnil, rfl, by simp⟩
  | cons a l ih =>
    obtain ⟨ha, hl⟩ := List.pairwise_cons.1 h
    obtain ⟨seen, hsub, hseen, hfirst⟩ := ih hl
    refine ⟨a :: seen.filter (fun b => f b ≠ f a), ?_, ?_, ?_⟩
    · exact (List.filter_sublist.trans hsub).cons_cons a
    · rw [List.map_cons, firstSeen, hseen, List.filter_map]
      rfl
    · intro c hc b hb hf
      rcases List.mem_cons.1 hc with rfl | hc
      · exact (List.mem_cons.1 hb).imp_right (ha b)
      · obtain ⟨hc, hne⟩ := List.mem_filter.1 hc
        -- `a` has another value than `c`, so `b` comes behind it
        rcases List.mem_cons.1 hb with rfl | hb
        · exact absurd hf.symm (of_decide_eq_true hne)
        · exact hfirst c hc b hb hf

end BargeIn

namespace BargeIn.Text

/-! ## First places -/

/-- The first place of `tokens` at which the block `e` begins, if there is one. -/
def firstPlace (e : List String) : List String → Nat
  | [] => 0
  | t :: rest => if e <+: t :: rest then 0 else firstPlace e rest + 1

theorem isLeast_firstPlace {e tokens : List String} (h : e <:+: tokens) :
    IsLeast {k | e <+: tokens.drop k} (firstPlace e tokens) := by
  induction tokens with
  | nil =>
    obtain rfl := List.infix_nil.1 h
    exact ⟨List.nil_prefix, fun k _ => Nat.zero_le k⟩
  | cons t rest ih =>
    unfold firstPlace
    split
    · next hp => exact ⟨hp, fun k _ => Nat.zero_le k⟩
    · next hp =>
      obtain ⟨hmem, hleast⟩ := ih ((List.infix_cons_iff.1 h).resolve_left hp)
      refine ⟨hmem, fun k hk => ?_⟩
      cases k with
      | zero => exact absurd hk hp
      | succ k => exact Nat.succ_le_succ (hleast hk)

/-- Found before: at an earlier place; or at the same, as the word before a phrase or as a phrase
before one that comes later in the order `R`. -/
def Precedes (R : List String → List String → Prop) (tokens e f : List String) : Prop :=
  firstPlace e tokens < firstPlace f tokens ∨
    firstPlace e tokens = firstPlace f tokens ∧
      (e.length = 1 ∧ f.length ≠ 1 ∨ e.length ≠ 1 ∧ f.length ≠ 1 ∧ R e f)

theorem infix_of_prefix_drop {e tokens : List String} {k : Nat} (h : e <+: tokens.drop k) :
    e <:+: tokens := h.isInfix.trans (List.drop_suffix k tokens).isInfix

theorem singleton_prefix_drop {w : String} {tokens : List String} {i : Nat} :
    [w] <+: tokens.drop i ↔ tokens[i]? = some w := by
  rw [List.singleton_prefix_iff_head?_eq_some, List.head?_drop]

@[simp] theorem joinTokens_singleton (w : String) : joinTokens [w] = w := rfl

end BargeIn.Text

namespace BargeIn.Vocabulary

open BargeIn.Text

/-! ## Windows -/

/-- A block begins at the places of the windows that it is. -/
theorem prefix_drop_iff {e tokens : List String} (hne : e ≠ []) {k : Nat} :
    e <+: tokens.drop k ↔
      ∃ h : k < (windows e.length tokens).length, (windows e.length tokens)[k] = e := by
  have hpos : 0 < e.length := List.length_pos_of_ne_nil hne
  simp only [windows, List.getElem_map, List.getElem_range, List.length_map, List.length_range]
  constructor
  · intro h
    have hlength := h.length_le
    rw [List.length_drop] at hlength
    exact ⟨by omega, (List.prefix_iff_eq_take.1 h).symm⟩
  · rintro ⟨-, h⟩
    rw [← h]
    exact List.take_prefix _ _

/-- The place that is found for a phrase is the least from which it can be read. -/
theorem findPhrase_eq_some {e tokens : List String} {k : Nat} :
    findPhrase tokens e = some k ↔ e ≠ [] ∧ IsLeast {k | e <+: tokens.drop k} k := by
  unfold findPhrase
  split
  · next h =>
    refine iff_of_false (by simp) ?_
    rintro ⟨hne, hbegins, -⟩
    have hlength := (infix_of_prefix_drop hbegins).length_le
    exact h.elim hne (Nat.not_lt.2 hlength)
  · next h =>
    obtain ⟨hne, -⟩ := not_or.1 h
    rw [List.findIdx?_eq_some_iff_getElem]
    constructor
    · rintro ⟨hk, hhere, hbefore⟩
      refine ⟨hne, (prefix_drop_iff hne).2 ⟨hk, eq_of_beq hhere⟩, fun j hj => ?_⟩
      obtain ⟨hj, heq⟩ := (prefix_drop_iff hne).1 hj
      by_contra hlt
      exact hbefore j (Nat.lt_of_not_le hlt) (beq_iff_eq.2 heq)
    · rintro ⟨-, hbegins, hleast⟩
      obtain ⟨hk, heq⟩ := (prefix_drop_iff hne).1 hbegins
      refine ⟨hk, beq_iff_eq.2 heq, fun j hjk hj => ?_⟩
      have hle := hleast ((prefix_drop_iff hne).2 ⟨hjk.trans hk, eq_of_beq hj⟩)
      omega

/-! ## Hits, entry by entry -/

/-- The hits, with the entries in place of their texts. -/
def spots (v : Vocabulary) (tokens : List String) : List (Nat × List String) :=
  (tokens.zipIdx.filter fun p => v.hasWord p.1).map (fun p => (p.2, [p.1])) ++
    v.phrases.filterMap fun e => (findPhrase tokens e).map fun start => (start, e)

/-- The entries that occur in `tokens`, by the place of their first occurrence. -/
def found (v : Vocabulary) (tokens : List String) : List (List String) :=
  firstSeen ((sortBy Prod.fst (v.spots tokens)).map Prod.snd)

theorem hits_eq_map (v : Vocabulary) (tokens : List String) :
    v.hits tokens = (v.spots tokens).map (Prod.map id joinTokens) := by
  unfold hits spots
  rw [List.map_append, List.map_map, List.map_filterMap]
  congr 2
  funext e
  rw [Option.map_map]
  rfl

/-- What is named are the texts of what is found. -/
theorem matchesIn_eq_firstSeen (v : Vocabulary) (tokens : List String) :
    v.matchesIn tokens = firstSeen ((v.found tokens).map joinTokens) := by
  unfold matchesIn found
  rw [hits_eq_map, sortBy_map, firstSeen_map_firstSeen, List.map_map, List.map_map]
  rfl

theorem mem_words_spots {v : Vocabulary} {tokens e : List String} {i : Nat} :
    (i, e) ∈ (tokens.zipIdx.filter fun p => v.hasWord p.1).map (fun p => (p.2, [p.1])) ↔
      e ∈ v.entries ∧ e.length = 1 ∧ e <+: tokens.drop i := by
  rw [List.mem_map]
  constructor
  · rintro ⟨⟨w, j⟩, hmem, heq⟩
    obtain ⟨rfl, rfl⟩ := Prod.mk.inj heq
    obtain ⟨hplace, hword⟩ := List.mem_filter.1 hmem
    rw [List.mem_zipIdx_iff_getElem?] at hplace
    exact ⟨List.contains_iff_mem.1 hword, rfl, singleton_prefix_drop.2 hplace⟩
  · rintro ⟨he, hlength, hbegins⟩
    obtain ⟨w, rfl⟩ := List.length_eq_one_iff.1 hlength
    refine ⟨(w, i), List.mem_filter.2 ⟨?_, List.contains_iff_mem.2 he⟩, rfl⟩
    rw [List.mem_zipIdx_iff_getElem?]
    exact singleton_prefix_drop.1 hbegins

theorem mem_phrases_spots {v : Vocabulary} {tokens e : List String} {i : Nat} :
    (i, e) ∈ v.phrases.filterMap (fun e => (findPhrase tokens e).map fun start => (start, e)) ↔
      e ∈ v.entries ∧ 2 ≤ e.length ∧ IsLeast {k | e <+: tokens.drop k} i := by
  rw [List.mem_filterMap]
  constructor
  · rintro ⟨f, hf, hhit⟩
    obtain ⟨k, hk, heq⟩ := Option.map_eq_some_iff.1 hhit
    obtain ⟨rfl, rfl⟩ := Prod.mk.inj heq
    obtain ⟨hf, hlength⟩ := List.mem_filter.1 hf
    exact ⟨hf, of_decide_eq_true hlength, (findPhrase_eq_some.1 hk).2⟩
  · rintro ⟨he, hlength, hleast⟩
    have hne : e ≠ [] := by
      rintro rfl
      rw [List.length_nil] at hlength
      omega
    refine ⟨e, List.mem_filter.2 ⟨he, decide_eq_true hlength⟩, ?_⟩
    rw [findPhrase_eq_some.2 ⟨hne, hleast⟩]
    rfl

/-- A word is hit wherever it stands, a phrase where it stands first. -/
theorem mem_spots {v : Vocabulary} {tokens e : List String} {i : Nat} :
    (i, e) ∈ v.spots tokens ↔ e ∈ v.entries ∧
      (e.length = 1 ∧ e <+: tokens.drop i ∨
        2 ≤ e.length ∧ IsLeast {k | e <+: tokens.drop k} i) := by
  rw [spots, List.mem_append, mem_words_spots, mem_phrases_spots, ← and_or_left]

theorem prefix_drop_of_mem_spots {v : Vocabulary} {tokens e : List String} {i : Nat}
    (h : (i, e) ∈ v.spots tokens) : e ∈ v.entries ∧ e ≠ [] ∧ e <+: tokens.drop i := by
  obtain ⟨he, ⟨hlength, hbegins⟩ | ⟨hlength, hleast⟩⟩ := mem_spots.1 h
  · exact ⟨he, List.ne_nil_of_length_pos (by omega), hbegins⟩
  · exact ⟨he, List.ne_nil_of_length_pos (by omega), hleast.1⟩

theorem firstPlace_mem_spots {v : Vocabulary} {tokens e : List String} (he : e ∈ v.entries)
    (hne : e ≠ []) (hblock : e <:+: tokens) : (firstPlace e tokens, e) ∈ v.spots tokens := by
  have hpos := List.length_pos_of_ne_nil hne
  have hleast := isLeast_firstPlace hblock
  refine mem_spots.2 ⟨he, ?_⟩
  by_cases hlength : e.length = 1
  · exact Or.inl ⟨hlength, hleast.1⟩
  · exact Or.inr ⟨by omega, hleast⟩

theorem mem_found {v : Vocabulary} {tokens e : List String} :
    e ∈ v.found tokens ↔ e ∈ v.entries ∧ e ≠ [] ∧ e <:+: tokens := by
  unfold found
  rw [mem_firstSeen, List.mem_map]
  constructor
  · rintro ⟨⟨i, f⟩, hmem, rfl⟩
    obtain ⟨he, hne, hbegins⟩ := prefix_drop_of_mem_spots ((perm_sortBy _ _).mem_iff.1 hmem)
    exact ⟨he, hne, infix_of_prefix_drop hbegins⟩
  · rintro ⟨he, hne, hinfix⟩
    have hmem := firstPlace_mem_spots he hne hinfix
    exact ⟨_, (perm_sortBy _ _).mem_iff.2 hmem, rfl⟩

theorem nodup_found (v : Vocabulary) (tokens : List String) : (v.found tokens).Nodup :=
  nodup_firstSeen _

/-! ## The order of the hits -/

/-- Hits at one place were gathered in this order: the word, and then the phrases as they are
configured. -/
theorem pairwise_spots {v : Vocabulary} {R : List String → List String → Prop}
    (hR : v.entries.Pairwise R) (tokens : List String) :
    (v.spots tokens).Pairwise fun p q => p.1 = q.1 →
      p.2.length = 1 ∧ q.2.length ≠ 1 ∨ p.2.length ≠ 1 ∧ q.2.length ≠ 1 ∧ R p.2 q.2 := by
  unfold spots
  rw [List.pairwise_append]
  refine ⟨?_, ?_, ?_⟩
  · -- words are hit at places of their own
    have hplaces : tokens.zipIdx.Pairwise fun p q => p.2 ≠ q.2 := by
      rw [← List.pairwise_map (f := Prod.snd) (R := (· ≠ ·)), List.zipIdx_map_snd]
      exact List.nodup_range'
    rw [List.pairwise_map]
    exact (hplaces.filter _).imp fun hne heq => absurd heq hne
  · have hphrases : v.phrases.Pairwise fun e f => 2 ≤ e.length ∧ 2 ≤ f.length ∧ R e f := by
      refine (hR.filter _).imp_of_mem ?_
      intro e f he hf hef
      exact ⟨of_decide_eq_true (List.mem_filter.1 he).2, of_decide_eq_true (List.mem_filter.1 hf).2,
        hef⟩
    refine List.Pairwise.filterMap _ ?_ hphrases
    rintro e f ⟨he, hf, hef⟩ p hp q hq -
    obtain ⟨-, -, rfl⟩ := Option.map_eq_some_iff.1 hp
    obtain ⟨-, -, rfl⟩ := Option.map_eq_some_iff.1 hq
    exact Or.inr ⟨Nat.ne_of_gt he, Nat.ne_of_gt hf, hef⟩
  · rintro ⟨i, e⟩ hword ⟨j, f⟩ hphrase -
    obtain ⟨-, he, -⟩ := mem_words_spots.1 hword
    obtain ⟨-, hf, -⟩ := mem_phrases_spots.1 hphrase
    exact Or.inl ⟨he, Nat.ne_of_gt hf⟩

/-- Of the hits of one entry the first is seen, and that is where the entry begins first. -/
theorem pairwise_found {v : Vocabulary} {R : List String → List String → Prop}
    (hR : v.entries.Pairwise R) (tokens : List String) :
    (v.found tokens).Pairwise (Precedes R tokens) := by
  have hsorted := pairwise_sortBy Prod.fst (pairwise_spots hR tokens)
  obtain ⟨seen, hsub, hseen, hfirst⟩ := exists_sublist_firstSeen Prod.snd hsorted
  have hplace : ∀ p ∈ seen, p.1 = firstPlace p.2 tokens := by
    rintro ⟨i, e⟩ hp
    have hspot := (perm_sortBy _ _).mem_iff.1 (hsub.mem hp)
    obtain ⟨he, hne, hbegins⟩ := prefix_drop_of_mem_spots hspot
    have hinfix := infix_of_prefix_drop hbegins
    have hmem := (perm_sortBy Prod.fst _).mem_iff.2 (firstPlace_mem_spots he hne hinfix)
    have hle : i ≤ firstPlace e tokens := by
      rcases hfirst (i, e) hp _ hmem rfl with heq | hbefore
      · exact le_of_eq (congrArg Prod.fst heq).symm
      · exact hbefore.le
    exact Nat.le_antisymm hle ((isLeast_firstPlace hinfix).2 hbegins)
  unfold found
  rw [hseen, List.pairwise_map]
  refine (hsorted.sublist hsub).imp_of_mem ?_
  intro p q hp hq hbefore
  unfold ByKey at hbefore
  rw [hplace p hp, hplace q hq] at hbefore
  exact hbefore

/-! ## Matches -/

theorem mem_matchesIn {v : Vocabulary} {s : String} {tokens : List String} :
    s ∈ v.matchesIn tokens ↔ ∃ e ∈ v.entries, e ≠ [] ∧ e <:+: tokens ∧ joinTokens e = s := by
  rw [matchesIn_eq_firstSeen, mem_firstSeen, List.mem_map]
  simp only [mem_found, and_assoc]

theorem nodup_matchesIn (v : Vocabulary) (tokens : List String) : (v.matchesIn tokens).Nodup :=
  nodup_firstSeen _

theorem matchesIn_eq_nil {v : Vocabulary} {tokens : List String}
    (h : ∀ e ∈ v.entries, ¬e <:+: tokens) : v.matchesIn tokens = [] := by
  apply List.eq_nil_iff_forall_not_mem.2
  intro s hs
  obtain ⟨e, hv, -, hi, -⟩ := mem_matchesIn.1 hs
  exact h e hv hi

end BargeIn.Vocabulary
