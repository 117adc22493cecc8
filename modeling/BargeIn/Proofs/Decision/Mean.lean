import Mathlib
import BargeIn.Proofs.Number.HalfWay
import BargeIn.Proofs.Number.Monotone
import BargeIn.Proofs.Session.LastWrites

/-!
# Means at the floor

A mean of words that all reach the floor need not reach it: every addition rounds, and so does the
division.  Among such utterances of one length the worst is that whose words all stand at the floor,
so this one says whether any of them can be taken for a murmur (`clear_of_clear_words`).  It is none
if its sums are held exactly, and none is a murmur whose words clear the floor by a part in `2 ^ 24`
for each of them.
-/

namespace BargeIn

open BargeIn.Number

namespace Utterance

/-! ## Sums and means in order -/

theorem total_concat (xs : List Confidence) (x : Confidence) :
    total (xs ++ [x]) = (total xs).add x := by
  unfold total
  rw [List.foldl_append, List.foldl_cons, List.foldl_nil]

/-- Greater words have a greater sum, whatever the roundings. -/
theorem rises_total {xs ys : List Confidence} (h : List.Forall₂ Binary.Rises xs ys) :
    Binary.Rises (total xs) (total ys) := by
  -- generalized over the sums so far
  suffices hsum : ∀ a b, Binary.Rises a b → Binary.Rises (xs.foldl .add a) (ys.foldl .add b) from
    hsum _ _ ⟨fun _ => rfl, fun _ => rfl, le_rfl⟩
  induction h with
  | nil =>
    intro a b hab
    exact hab
  | cons hxy _ ih =>
    intro a b hab
    exact ih _ _ (hab.add hxy)

/-- The number of words, as a confidence is divided by it. -/
def count (n : Nat) : Confidence := .ofNat false n

theorem unsigned_count (n : Nat) : (count n).Unsigned := Binary.unsigned_ofUnits _ _

theorem code_count_ne_zero {n : Nat} (hn : 0 < n) : (count n).code ≠ 0 := by
  have hone : 1 ≤ (count n).code := by
    apply Format.le_round Binary.two_dvd_binade32 one_pos (by decide)
    rw [Nat.cast_one, div_one]
    have hunits : binary32.units 1 ≤ n * binary32.unity :=
      Nat.le_trans (by decide) (Nat.mul_le_mul_right binary32.unity hn)
    exact_mod_cast hunits
  omega

/-- A magnitude below that of infinity is finite. -/
theorem lt_top_of_units_lt {c : Nat} (h : (binary32.units c : Rat) < 2 ^ 127 * 2 ^ 150) :
    c < binary32.top := by
  rw [← units_top32] at h
  rw [← binary32.strictMono_units.lt_iff_lt]
  exact_mod_cast h

/-- Up to `2 ^ 24` words are counted exactly. -/
theorem units_count {n : Nat} (hn : n ≤ 2 ^ 24) :
    (count n).code < binary32.top ∧ binary32.units (count n).code = n * binary32.unity := by
  obtain ⟨c, hc⟩ := binary32.exists_units_eq (m := n) hn 149
  have htop : c < binary32.top := by
    apply lt_top_of_units_lt
    have hle : (n : Rat) ≤ 2 ^ 24 := by exact_mod_cast hn
    rw [hc]
    push_cast
    calc (n : Rat) * 2 ^ 149 ≤ 2 ^ 24 * 2 ^ 149 := by gcongr
      _ < 2 ^ 127 * 2 ^ 150 := by norm_num
  have hcode : (count n).code = c := by
    apply Format.round_eq_of_units Binary.two_dvd_binade32 one_pos htop.le
    rw [Nat.cast_one, div_one]
    exact_mod_cast hc.symm
  rw [hcode]
  exact ⟨htop, hc⟩

theorem mean_eq (xs : List Confidence) : mean xs = (total xs).div (count xs.length) := rfl

theorem meanConfidence_of_words {u : Utterance} (hne : u.words ≠ []) :
    u.meanConfidence = some (mean (u.words.map HeardWord.confidence)) := by
  unfold meanConfidence
  rw [if_neg (by simpa using hne)]

/-- Greater words have a greater mean, unless there are so many that their number is infinite; then
the mean may be no number. -/
theorem rises_mean {xs ys : List Confidence} (h : List.Forall₂ Binary.Rises xs ys) (hne : xs ≠ []) :
    Binary.Rises (mean xs) (mean ys) ∨
      (count xs.length).code = binary32.top ∧ mean ys = .nan := by
  have hrises := rises_total h
  have hpos := code_count_ne_zero (List.length_pos_of_ne_nil hne)
  have hcount := unsigned_count xs.length
  rw [mean_eq, mean_eq, ← h.length_eq]
  by_cases hinf : (count xs.length).code = binary32.top
  · have hleft := hrises.left.div_top hcount hinf
    have hright := hrises.right.div_top hcount hinf
    by_cases hy : (total ys).code = binary32.top
    · rw [if_pos hy] at hright
      exact Or.inr ⟨hinf, hright⟩
    · -- the lesser sum is finite as well, and both means are zero
      have hle := hrises.code_le
      have hmax := (total ys).code_le_top
      rw [if_neg (by omega)] at hleft
      rw [if_neg hy] at hright
      left
      exact ⟨hleft.1, hright.1, by rw [hleft.2, hright.2]⟩
  · left
    exact hrises.div hcount hpos hinf

/-- If a mean is not below the floor, then nor is that of greater words. -/
theorem not_below_mean_of_rises {floor : Confidence} (hfloor : floor.Unsigned)
    {xs ys : List Confidence} (h : List.Forall₂ Binary.Rises xs ys) (hne : xs ≠ [])
    (hx : ¬(mean xs).Below floor) : ¬(mean ys).Below floor := by
  rcases rises_mean h hne with hmean | ⟨-, hnan⟩
  · rw [hmean.left.below_iff hfloor] at hx
    rw [hmean.right.below_iff hfloor]
    have hcode := hmean.code_le
    omega
  · rw [hnan]
    simp [Binary.Below, Binary.value?]

/-! ## Sums from below -/

/-- Not below zero, and infinite or at least `v` units. -/
structure Reaches (x : Confidence) (v : Rat) : Prop where
  unsigned : x.Unsigned
  reaches : x.code = binary32.top ∨ v ≤ binary32.units x.code

theorem reaches_nil : Reaches (total []) 0 := ⟨fun _ => rfl, .inr (Nat.cast_nonneg _)⟩

section

variable {x y : Confidence} {v w : Rat} (hx : Reaches x v)
include hx

theorem Reaches.mono (hwv : w ≤ v) : Reaches x w := ⟨hx.unsigned, hx.reaches.imp_right hwv.trans⟩

variable (hy : y.Unsigned)
include hy

/-- What a sum reaches is a matter of finite terms, since infinity is kept. -/
theorem Reaches.add {z : Rat} (hround : v ≤ binary32.units x.code →
    binary32.round (binary32.units x.code + binary32.units y.code) 1 = binary32.top ∨
      z ≤ binary32.units (binary32.round (binary32.units x.code + binary32.units y.code) 1)) :
    Reaches (x.add y) z := by
  obtain ⟨hsum, hcode⟩ := hx.unsigned.add hy
  refine ⟨hsum, ?_⟩
  rw [hcode]
  rcases hx.reaches with htop | hle
  · left
    rw [htop]
    exact Binary.round_eq_top (Nat.le_add_right _ _)
  · exact hround hle

variable (hw : w ≤ binary32.units y.code)
include hw

/-- A sum that is held exactly loses nothing. -/
theorem Reaches.add_exact (hexact : ∃ c, (binary32.units c : Rat) = v + w) :
    Reaches (x.add y) (v + w) := by
  obtain ⟨c, hc⟩ := hexact
  refine hx.add hy fun hle => ?_
  have hterms : (binary32.units c : Rat) ≤
      (binary32.units x.code + binary32.units y.code : Nat) := by
    push_cast
    linarith
  rcases Nat.le_total c binary32.top with hfinite | hlarge
  · right
    rw [← hc]
    apply Format.units_le_units
    exact Format.le_round Binary.two_dvd_binade32 one_pos hfinite (by rwa [Nat.cast_one, div_one])
  · left
    apply Binary.round_eq_top
    exact Nat.le_trans (binary32.strictMono_units.monotone hlarge) (by exact_mod_cast hterms)

/-- Any other loses a part in `2 ^ 24` at most. -/
theorem Reaches.add_rounded : Reaches (x.add y) ((v + w) * (2 ^ 24 / (2 ^ 24 + 1))) := by
  refine hx.add hy fun hle => ?_
  have hbinade : (2 * binary32.binade : Rat) = 2 ^ 24 := by
    rw [binary32.cast_binade]
    norm_num [binary32]
  refine (binary32.le_units_round _).imp_right fun hround => ?_
  rw [hbinade] at hround
  push_cast at hround
  rw [← mul_div_assoc, div_le_iff₀ (by positivity)]
  calc (v + w) * 2 ^ 24 ≤ (binary32.units x.code + binary32.units y.code) * 2 ^ 24 := by gcongr
    _ ≤ _ := hround

end

/-- A sum of `n` words that reaches `n` times the floor has a mean that is not below it. -/
theorem Reaches.not_below_mean {xs : List Confidence} (hne : xs ≠ []) (hn : xs.length ≤ 2 ^ 24)
    {floor : Confidence} (hfloor : floor.Unsigned)
    (h : Reaches (total xs) (xs.length * binary32.units floor.code)) :
    ¬(mean xs).Below floor := by
  have hlength := List.length_pos_of_ne_nil hne
  obtain ⟨hfinite, hunits⟩ := units_count hn
  obtain ⟨hmean, hcode⟩ := h.unsigned.div (unsigned_count xs.length) (code_count_ne_zero hlength)
    hfinite.ne
  rw [mean_eq, hmean.below_iff hfloor, Nat.not_lt, hcode]
  split
  · exact floor.code_le_top
  · next hne =>
    have hunity := binary32.unity_pos
    have hle := h.reaches.resolve_left hne
    rw [hunits]
    apply Format.le_round Binary.two_dvd_binade32
    · exact Nat.mul_pos hlength (by exact_mod_cast hunity)
    · exact floor.code_le_top
    · have hpos : (0 : Rat) < xs.length := by exact_mod_cast hlength
      push_cast
      rw [mul_div_mul_right _ _ hunity.ne', le_div_iff₀ hpos, mul_comm]
      exact hle

/-- Equal words whose multiples are held exactly have an exact sum. -/
theorem reaches_replicate {floor : Confidence} (hfloor : floor.Unsigned) {n : Nat}
    (h : ∀ k ≤ n, ∃ c, binary32.units c = k * binary32.units floor.code) :
    Reaches (total (List.replicate n floor)) (n * binary32.units floor.code) := by
  induction n with
  | zero =>
    rw [Nat.cast_zero, zero_mul]
    exact reaches_nil
  | succ n ih =>
    have hbefore := ih fun k hk => h k (Nat.le_succ_of_le hk)
    obtain ⟨c, hc⟩ := h (n + 1) le_rfl
    have hexact : ∃ c, (binary32.units c : Rat) =
        n * binary32.units floor.code + binary32.units floor.code := by
      refine ⟨c, ?_⟩
      rw [hc]
      push_cast
      ring
    rw [List.replicate_succ', total_concat, Nat.cast_succ, add_one_mul]
    exact hbefore.add_exact hfloor le_rfl hexact

/-- What `n` words of at least `w` units lose in their sum is a part in `2 ^ 24` for each. -/
theorem reaches_of_forall {w : Rat} (hw : 0 ≤ w) {xs : List Confidence}
    (h : ∀ x ∈ xs, x.Unsigned ∧ w ≤ binary32.units x.code) :
    Reaches (total xs) (xs.length * (w * (2 ^ 24 / (2 ^ 24 + 1)) ^ xs.length)) := by
  induction xs using List.reverseRecOn with
  | nil =>
    rw [List.length_nil, Nat.cast_zero, zero_mul]
    exact reaches_nil
  | append_singleton xs x ih =>
    have hbefore := ih fun y hy => h y (List.mem_append_left _ hy)
    obtain ⟨hx, hle⟩ := h x (List.mem_append_right _ (List.mem_singleton_self x))
    rw [total_concat]
    apply (hbefore.add_rounded hx hle).mono
    -- the last word loses once, and is said to lose as often as there are words
    have hkept : w * (2 ^ 24 / (2 ^ 24 + 1)) ^ xs.length ≤ w :=
      mul_le_of_le_one_right hw (pow_le_one₀ (by positivity) (by norm_num))
    rw [List.length_append, List.length_singleton, Nat.cast_succ, pow_succ, ← mul_assoc w,
      ← mul_assoc]
    gcongr
    linarith

end Utterance

/-! ## Floors -/

namespace Number.Binary

theorem InUnit.unsigned {floor : Confidence} (h : floor.InUnit) : floor.Unsigned := by
  cases floor with
  | nan => exact absurd h.1 (by decide)
  | real s a ha =>
    rintro rfl
    by_contra hne
    apply h.2.1
    have hunits : 0 < binary32.units a := binary32.units_pos hne
    refine ⟨-(binary32.units a : Int), rfl, 0, rfl, ?_⟩
    omega

/-- Nothing that is not below zero is below zero, and what is not a number is below nothing. -/
theorem Unsigned.not_below_zero {x y z : Confidence} (hx : x.Unsigned) (hy : y.Unsigned)
    (hpos : y.code ≠ 0) (hz : z.Unsigned) (hzero : z.code = 0) : ¬(x.div y).Below z := by
  by_cases hinf : y.code = binary32.top
  · have hdiv := hx.div_top hy hinf
    split at hdiv
    · rw [hdiv]
      simp [Below, value?]
    · rw [hdiv.1.below_iff hz, hzero]
      exact Nat.not_lt_zero _
  · rw [(hx.div hy hpos hinf).1.below_iff hz, hzero]
    exact Nat.not_lt_zero _

/-- `y` is at least `x` and a part in `2 ^ 24` more for each of `n` roundings. -/
def Clears (n : Nat) (x y : Confidence) : Prop :=
  ∃ a ∈ x.value?, ∃ b ∈ y.value?, a * (2 ^ 24 + 1) ^ n ≤ b * (2 ^ 24) ^ n

instance (n : Nat) (x y : Confidence) : Decidable (Clears n x y) := by
  unfold Clears
  infer_instance

theorem Unsigned.of_clears {n : Nat} {x y : Confidence} (hx : x.Unsigned) (h : Clears n x y) :
    y.Unsigned ∧ (binary32.units x.code * (2 ^ 24 + 1) ^ n : Rat) ≤
      binary32.units y.code * (2 ^ 24) ^ n := by
  obtain ⟨a, ha, b, hb, hab⟩ := h
  have hvalue := hx.value?_eq
  rw [Option.mem_def, hvalue, Option.some.injEq] at ha
  subst ha
  -- a value below zero does not reach a magnitude, however it is scaled
  have hle : (binary32.units x.code : Int) ≤ b := by
    have hgrow : (2 ^ 24 : Int) ^ n ≤ (2 ^ 24 + 1) ^ n :=
      pow_le_pow_left₀ (by positivity) (by norm_num) n
    have hscaled : (binary32.units x.code : Int) * (2 ^ 24) ^ n ≤ b * (2 ^ 24) ^ n :=
      (mul_le_mul_of_nonneg_left hgrow (Int.natCast_nonneg _)).trans hab
    exact le_of_mul_le_mul_right hscaled (by positivity)
  have hy := (hx.rises ⟨_, hvalue, b, hb, hle⟩).right
  rw [Option.mem_def, hy.value?_eq, Option.some.injEq] at hb
  subst hb
  exact ⟨hy, by exact_mod_cast hab⟩

end Number.Binary

namespace Utterance

theorem not_below_mean_zero {floor : Confidence} (hfloor : floor.Unsigned) (hzero : floor.code = 0)
    {n : Nat} (hn : 0 < n) : ¬(mean (List.replicate n floor)).Below floor := by
  rw [mean_eq, List.length_replicate]
  have hself : List.Forall₂ Binary.Rises (List.replicate n floor) (List.replicate n floor) := by
    rw [List.forall₂_same]
    intro x hx
    rw [List.eq_of_mem_replicate hx]
    exact ⟨hfloor, hfloor, le_rfl⟩
  exact (rises_total hself).left.not_below_zero (unsigned_count n) (code_count_ne_zero hn) hfloor
    hzero

/-- The mean of `n` words at the floor does not fall below it if there are two at most, or if the
floor has few digits. -/
theorem not_below_mean_replicate {floor : Confidence} (hfloor : floor.Unsigned) {n : Nat}
    (hn : 0 < n) (h : n ≤ 2 ∨ ∃ m j : Nat, floor.value? = some (m * 2 ^ j : Int) ∧ n * m ≤ 2 ^ 24) :
    ¬(mean (List.replicate n floor)).Below floor := by
  by_cases hzero : floor.code = 0
  · exact not_below_mean_zero hfloor hzero hn
  have hne : List.replicate n floor ≠ [] := by
    rw [Ne, List.replicate_eq_nil_iff]
    omega
  suffices hexact : n ≤ 2 ^ 24 ∧ ∀ k ≤ n, ∃ c, binary32.units c = k * binary32.units floor.code by
    have hreaches := reaches_replicate hfloor hexact.2
    apply Reaches.not_below_mean hne
    · rw [List.length_replicate]
      exact hexact.1
    · exact hfloor
    · rw [List.length_replicate]
      exact hreaches
  rcases h with htwo | ⟨m, j, hvalue, hdigits⟩
  · refine ⟨Nat.le_trans htwo (by decide), fun k hk => ?_⟩
    obtain ⟨q, m, hcode, hm, hq⟩ := binary32.exists_scaled floor.code
    have hunits := binary32.units_scaled hm.le hq
    rw [← hcode] at hunits
    have hk := hk.trans htwo
    interval_cases k
    · exact ⟨0, by simp⟩
    · exact ⟨floor.code, by simp⟩
    · obtain ⟨c, hc⟩ := binary32.exists_units_eq hm.le (q + 1)
      exact ⟨c, by rw [hc, hunits]; ring⟩
  · have hunits : binary32.units floor.code = m * 2 ^ j := by
      rw [hfloor.value?_eq, Option.some.injEq] at hvalue
      exact_mod_cast hvalue
    have hm : m ≠ 0 := by
      rintro rfl
      rw [Nat.zero_mul] at hunits
      exact (binary32.units_pos hzero).ne' hunits
    refine ⟨(Nat.le_mul_of_pos_right n (Nat.pos_of_ne_zero hm)).trans hdigits, fun k hk => ?_⟩
    have hfew : k * m ≤ 2 * binary32.binade := (Nat.mul_le_mul_right m hk).trans hdigits
    obtain ⟨c, hc⟩ := binary32.exists_units_eq hfew j
    exact ⟨c, by rw [hc, hunits]; ring⟩

/-- Words that clear the floor by what they can lose have a mean that is not below it. -/
theorem not_below_mean_of_clears {floor : Confidence} (hfloor : floor.Unsigned)
    {xs : List Confidence} (hne : xs ≠ []) (hn : xs.length ≤ 2 ^ 24)
    (h : ∀ x ∈ xs, Binary.Clears xs.length floor x) : ¬(mean xs).Below floor := by
  have hkeep : (0 : Rat) < (2 ^ 24 / (2 ^ 24 + 1)) ^ xs.length := by positivity
  -- what every word is at least
  have hwords : ∀ x ∈ xs, x.Unsigned ∧
      (binary32.units floor.code : Rat) / (2 ^ 24 / (2 ^ 24 + 1)) ^ xs.length ≤
        binary32.units x.code := by
    intro x hx
    obtain ⟨hunsigned, hclears⟩ := hfloor.of_clears (h x hx)
    refine ⟨hunsigned, ?_⟩
    rw [div_le_iff₀ hkeep, div_pow, mul_div_assoc', le_div_iff₀ (by positivity)]
    exact hclears
  have hreaches := reaches_of_forall (by positivity) hwords
  rw [div_mul_cancel₀ _ hkeep.ne'] at hreaches
  exact hreaches.not_below_mean hne hn hfloor

theorem rises_replicate {floor : Confidence} {xs : List Confidence}
    (h : ∀ x ∈ xs, Binary.Rises floor x) :
    List.Forall₂ Binary.Rises (List.replicate xs.length floor) xs := by
  induction xs with
  | nil => exact .nil
  | cons x xs ih =>
    rw [List.length_cons, List.replicate_succ]
    exact .cons (h x List.mem_cons_self) (ih fun y hy => h y (List.mem_cons_of_mem _ hy))

end Utterance

namespace Policy

theorem reason_eq_lowConfidence {p : Policy} {u : Utterance} :
    (p.decide u).reason = .lowConfidence ↔ p.speaking = true ∧ Murmured p.floor u := by
  have hreason : (p.decide u).reason = (p.ruling u.tokens u.meanConfidence).2.1 := rfl
  rw [hreason]
  cases hspeaking : p.speaking with
  | false =>
    rw [ruling_of_quiet hspeaking]
    simp
  | true =>
    by_cases hm : Murmured p.floor u
    · rw [ruling_of_murmur hspeaking hm]
      exact iff_of_true rfl ⟨rfl, hm⟩
    · rw [ruling_of_clear hspeaking hm]
      exact iff_of_false (p.reason_judge_ne u.tokens) fun h => hm h.2

/-- An utterance with confidences for its words is a murmur if their mean is below the floor. -/
theorem reason_eq_lowConfidence_iff {p : Policy} (hspeaking : p.speaking = true) {u : Utterance}
    (hne : u.words ≠ []) : (p.decide u).reason = .lowConfidence ↔
      (Utterance.mean (u.words.map HeardWord.confidence)).Below p.floor := by
  rw [reason_eq_lowConfidence, hspeaking, Murmured, Utterance.meanConfidence_of_words hne]
  simp

/-- While the agent speaks, an utterance of `n` words that all reach the floor is never a murmur
exactly if `n` words at the floor are none.  They are none if there are two at most or if the floor
has few digits; and with any floor an utterance is none whose words clear it by a part in `2 ^ 24`
for each word. -/
theorem clear_of_clear_words {p : Policy} (hspeaking : p.speaking = true) (hfloor : p.floor.InUnit)
    {n : Nat} (hn : 0 < n) :
    ((∀ u : Utterance, u.words.length = n →
        (∀ w ∈ u.words, w.confidence.isFinite = true ∧ p.floor.AtMost w.confidence) →
        (p.decide u).reason ≠ .lowConfidence) ↔
      ¬(Utterance.mean (List.replicate n p.floor)).Below p.floor) ∧
    (n ≤ 2 ∨ (∃ m j : Nat, p.floor.value? = some (m * 2 ^ j : Int) ∧ n * m ≤ 2 ^ 24) →
      ¬(Utterance.mean (List.replicate n p.floor)).Below p.floor) ∧
    (n ≤ 2 ^ 24 → ∀ u : Utterance, u.words.length = n →
      (∀ w ∈ u.words, w.confidence.isFinite = true ∧ Binary.Clears n p.floor w.confidence) →
      (p.decide u).reason ≠ .lowConfidence) := by
  have hunsigned := hfloor.unsigned
  have hne : ∀ {u : Utterance}, u.words.length = n → u.words ≠ [] := by
    rintro u hlength hnil
    rw [hnil, List.length_nil] at hlength
    omega
  refine ⟨⟨fun h hbelow => ?_, fun h u hlength hwords => ?_⟩,
    Utterance.not_below_mean_replicate hunsigned hn, fun hexact u hlength hwords => ?_⟩
  · -- the words at the floor themselves
    let u : Utterance := (Utterance.ofText "").withWords (List.replicate n ⟨"", p.floor⟩)
    have hlength : u.words.length = n := List.length_replicate
    have hconfidence : u.words.map HeardWord.confidence = List.replicate n p.floor :=
      List.map_replicate
    apply h u hlength
    · intro w hw
      rw [List.eq_of_mem_replicate hw]
      exact ⟨hfloor.1, (hunsigned.atMost_iff hunsigned).2 le_rfl⟩
    · rw [reason_eq_lowConfidence_iff hspeaking (hne hlength), hconfidence]
      exact hbelow
  · rw [Ne, reason_eq_lowConfidence_iff hspeaking (hne hlength)]
    have hrises : ∀ x ∈ u.words.map HeardWord.confidence, Binary.Rises p.floor x := by
      intro x hx
      obtain ⟨w, hw, rfl⟩ := List.mem_map.1 hx
      exact hunsigned.rises (hwords w hw).2
    have hall := Utterance.rises_replicate hrises
    rw [List.length_map, hlength] at hall
    refine Utterance.not_below_mean_of_rises hunsigned hall ?_ h
    rw [Ne, List.replicate_eq_nil_iff]
    omega
  · rw [Ne, reason_eq_lowConfidence_iff hspeaking (hne hlength)]
    have hmap : (u.words.map HeardWord.confidence).length = n := by rw [List.length_map, hlength]
    apply Utterance.not_below_mean_of_clears hunsigned
    · simpa using hne hlength
    · rw [hmap]
      exact hexact
    · intro x hx
      obtain ⟨w, hw, rfl⟩ := List.mem_map.1 hx
      rw [hmap]
      exact (hwords w hw).2

/-- The policy of the standard settings while the agent speaks. -/
def standardSpeaking : Policy :=
  ⟨true, Settings.standard.floor, .ofTexts Settings.standard.fillers,
    .ofTexts Settings.standard.stops⟩

/-- The standard floor has one digit, so three words that reach it are never a murmur. -/
theorem clear_of_three_words : standardSpeaking.speaking = true ∧ standardSpeaking.floor.InUnit ∧
    0 < 3 ∧ ∀ u : Utterance, u.words.length = 3 →
      (∀ w ∈ u.words, w.confidence.isFinite = true ∧
        standardSpeaking.floor.AtMost w.confidence) →
      (standardSpeaking.decide u).reason ≠ .lowConfidence := by
  have hfloor : standardSpeaking.floor.InUnit := by
    unfold Binary.InUnit
    decide +kernel
  have hdigits : standardSpeaking.floor.value? = some ((1 : Nat) * 2 ^ 148 : Int) := by
    decide +kernel
  have hthree : 0 < 3 := by decide
  obtain ⟨hiff, hfew, -⟩ := clear_of_clear_words (p := standardSpeaking) rfl hfloor hthree
  exact ⟨rfl, hfloor, hthree, hiff.2 (hfew (.inr ⟨1, 148, hdigits, by decide⟩))⟩

/-- Nine tenths, or what is held of it. -/
def nineTenths : Confidence := .ofUnits false (9 * binary32.unity) 10

/-- Three times the stop word, with nine tenths for each. -/
def thriceStop : Utterance :=
  (Utterance.ofText "stop stop stop").withWords (List.replicate 3 ⟨"stop", nineTenths⟩)

/-- Three words that stand at a floor of nine tenths are taken for a murmur, although nine tenths
for the whole are not. -/
theorem thriceStop_murmured :
    let p : Policy := ⟨true, nineTenths, .ofTexts [], .ofTexts ["stop"]⟩
    p.floor.InUnit ∧
    (∀ w ∈ thriceStop.words, w.confidence.isFinite = true ∧ p.floor.AtMost w.confidence) ∧
    (p.decide thriceStop).reason = .lowConfidence ∧
    (p.decide ((Utterance.ofText "stop stop stop").withConfidence nineTenths)).reason =
      .forceStopWord := by
  unfold Binary.InUnit
  decide +kernel

end Policy

end BargeIn
