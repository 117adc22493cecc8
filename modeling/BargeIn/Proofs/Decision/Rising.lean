import Mathlib
import BargeIn.Proofs.Decision.Mean

/-!
# Words that are heard more clearly

Where every word of an utterance becomes more confident, so does the utterance, though every sum is
rounded and so is the quotient: nothing in this loses the order of two runs of the same length, not
overflow either.  An utterance that was no murmur is none then, and whatever was made of it is made
of it again (`clear_as_words_rise`).
-/

namespace BargeIn

open BargeIn.Number

namespace Utterance

/-- A machine word counts no more words than are counted to a finite number. -/
theorem code_count_lt_top {n : Nat} (hn : n < 2 ^ 64) : (count n).code < binary32.top := by
  obtain ⟨c, hc⟩ := binary32.exists_units_eq (m := 1) (by decide) (64 + 149)
  rw [Nat.one_mul] at hc
  have htop : c < binary32.top := by
    apply lt_top_of_units_lt
    rw [hc]
    norm_num
  have hself : binary32.round (binary32.units c) 1 = c := by
    apply Format.round_eq_of_units Binary.two_dvd_binade32 one_pos htop.le
    rw [Nat.cast_one, div_one]
  have hle : n * binary32.unity ≤ binary32.units c := by
    rw [hc, pow_add]
    exact Nat.mul_le_mul hn.le le_rfl
  have hround : (count n).code ≤ binary32.round (binary32.units c) 1 := by
    apply Format.round_le_round Binary.two_dvd_binade32 one_pos one_pos
    rw [Nat.cast_one, div_one, div_one]
    exact_mod_cast hle
  omega

section

variable {xs ys : List Confidence} (h : List.Forall₂ Binary.Rises xs ys) (hne : xs ≠ [])
include h hne

/-- Means are in the order of their words, as long as these can be counted. -/
theorem atMost_mean : (mean xs).AtMost (mean ys) ∨ 2 ^ 64 ≤ xs.length ∧ mean ys = .nan := by
  rcases rises_mean h hne with hmean | ⟨hinf, hnan⟩
  · left
    exact (hmean.left.atMost_iff hmean.right).2 hmean.code_le
  · right
    refine ⟨?_, hnan⟩
    by_contra hfew
    have hfinite := code_count_lt_top (Nat.lt_of_not_le hfew)
    omega

theorem below_mean {floor : Confidence} (hy : (mean ys).Below floor) : (mean xs).Below floor := by
  rcases atMost_mean h hne with hmean | ⟨-, hnan⟩
  · exact hmean.below hy
  · rw [hnan] at hy
    simp [Binary.Below, Binary.value?] at hy

end

end Utterance

namespace Policy

/-- While two utterances are no murmurs, what is made of them is a matter of their tokens. -/
theorem verdict_eq_of_clear {p : Policy} {u w : Utterance}
    (hu : (p.decide u).reason ≠ .lowConfidence) (hw : (p.decide w).reason ≠ .lowConfidence)
    (htokens : w.tokens = u.tokens) : (p.decide w).verdict = (p.decide u).verdict := by
  rw [Ne, reason_eq_lowConfidence] at hu hw
  rw [verdict_decide, verdict_decide, htokens]
  cases hspeaking : p.speaking with
  | false => rw [ruling_of_quiet hspeaking, ruling_of_quiet hspeaking]
  | true =>
    rw [ruling_of_clear hspeaking fun hm => hu ⟨hspeaking, hm⟩,
      ruling_of_clear hspeaking fun hm => hw ⟨hspeaking, hm⟩]

/-- Let no word of an utterance be below zero, and let each be at least as confident in another one
of as many words.  Then the mean confidence of the other is at least as great, unless there are more
words than a machine counts; and no policy takes it for a murmur if it took the first for none. -/
theorem clear_as_words_rise {u w : Utterance} (hne : u.words ≠ [])
    (h : List.Forall₂ (fun x y : HeardWord =>
      x.confidence.Unsigned ∧ x.confidence.AtMost y.confidence) u.words w.words) :
    (∃ c ∈ u.meanConfidence, ∃ d ∈ w.meanConfidence,
      c.AtMost d ∨ 2 ^ 64 ≤ u.words.length ∧ d = .nan) ∧
    ∀ p : Policy, (p.decide u).reason ≠ .lowConfidence →
      (p.decide w).reason ≠ .lowConfidence ∧
      (w.tokens = u.tokens → (p.decide w).verdict = (p.decide u).verdict) := by
  have hrises : List.Forall₂ Binary.Rises (u.words.map HeardWord.confidence)
      (w.words.map HeardWord.confidence) := by
    rw [List.forall₂_map_left_iff, List.forall₂_map_right_iff]
    exact h.imp fun x y hxy => hxy.1.rises hxy.2
  have hmap : u.words.map HeardWord.confidence ≠ [] := by simpa using hne
  have hne' : w.words ≠ [] := by
    intro hnil
    rw [hnil, List.forall₂_nil_right_iff] at h
    exact hne h
  have hu := Utterance.meanConfidence_of_words hne
  have hw := Utterance.meanConfidence_of_words hne'
  constructor
  · have hmean := Utterance.atMost_mean hrises hmap
    rw [List.length_map] at hmean
    exact ⟨_, hu, _, hw, hmean⟩
  · intro p hclear
    have hclear' : (p.decide w).reason ≠ .lowConfidence := by
      rw [Ne, reason_eq_lowConfidence] at hclear ⊢
      rintro ⟨hspeaking, d, hd, hbelow⟩
      rw [hw, Option.mem_some_iff] at hd
      subst hd
      exact hclear ⟨hspeaking, _, hu, Utterance.below_mean hrises hmap hbelow⟩
    exact ⟨hclear', verdict_eq_of_clear hclear hclear'⟩

/-- Two words at nine tenths, of which the second becomes infinite. -/
theorem clear_as_words_rise_to_infinity :
    let u := (Utterance.ofText "hold on").withWords [⟨"hold", nineTenths⟩, ⟨"on", nineTenths⟩]
    let w := (Utterance.ofText "hold on").withWords
      [⟨"hold", nineTenths⟩, ⟨"on", .infinity false⟩]
    let p : Policy := ⟨true, nineTenths, .ofTexts ["on"], .ofTexts []⟩
    u.words ≠ [] ∧
    List.Forall₂ (fun x y : HeardWord =>
      x.confidence.Unsigned ∧ x.confidence.AtMost y.confidence) u.words w.words ∧
    (p.decide u).reason = .mixedNonFiller ∧ (p.decide w).verdict = (p.decide u).verdict := by
  intro u w p
  have hunsigned : nineTenths.Unsigned := Binary.unsigned_ofUnits _ _
  have hwords : List.Forall₂ (fun x y : HeardWord =>
      x.confidence.Unsigned ∧ x.confidence.AtMost y.confidence) u.words w.words :=
    .cons ⟨hunsigned, by decide +kernel⟩ (.cons ⟨hunsigned, by decide +kernel⟩ .nil)
  have hreason : (p.decide u).reason = .mixedNonFiller := by decide +kernel
  have hne : u.words ≠ [] := List.cons_ne_nil _ _
  obtain ⟨-, hstays⟩ := clear_as_words_rise hne hwords
  have hclear : (p.decide u).reason ≠ .lowConfidence := by
    rw [hreason]
    decide
  exact ⟨hne, hwords, hreason, (hstays p hclear).2 rfl⟩

end Policy

end BargeIn
