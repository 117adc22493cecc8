import Mathlib
import BargeIn.Unicode.Alphanumeric
import BargeIn.Unicode.Lowercase

/-!
# Lower-casing twice

A second lower-casing changes nothing, and what lower-casing brings in is alphanumeric, with one
exception: the capital dotted I becomes a small one followed by a combining dot, and the dot is
neither a letter nor a number.  `lowercase_of_ne` says so for a single character.

The tables are checked run by run: the lower cases of a run lie inside one interval of the
alphanumeric characters, and they lie apart from every run or interleave with it.
-/

namespace BargeIn.Unicode

/-! ## Checking the tables -/

/-- The code points from `a` to `b` lie in one of the intervals. -/
def spans : List (Nat × Nat) → Nat → Nat → Bool
  | [], _, _ => false
  | (lo, hi) :: rest, a, b => if b ≤ hi then decide (lo ≤ a) else decide (hi < a) && spans rest a b

theorem within_of_spans {l : List (Nat × Nat)} {a b n : Nat} (h : spans l a b = true) (ha : a ≤ n)
    (hb : n ≤ b) : within l n = true := by
  induction l with
  | nil => simp [spans] at h
  | cons p rest ih =>
    obtain ⟨lo, hi⟩ := p
    unfold spans at h
    unfold within
    split at h
    · have hlo : lo ≤ a := of_decide_eq_true h
      rw [if_pos (by omega)]
      exact decide_eq_true (by omega)
    · rw [Bool.and_eq_true, decide_eq_true_eq] at h
      rw [if_neg (by omega)]
      exact ih h.2

namespace CaseRun

/-- The run gives a lower case to `n`. -/
def Has (r : CaseRun) (n : Nat) : Prop := r.first ≤ n ∧ n ≤ r.last ∧ (n - r.first) % r.step = 0

/-- The lower case of the last code point of a run. -/
def lowerLast (r : CaseRun) : Nat := r.lower + (r.last - r.first)

/-- The lower cases of `r` have no lower case by `q`: the two lie apart, or both take every second
code point and never the same. -/
def avoids (r q : CaseRun) : Bool :=
  decide (r.lowerLast < q.first) || decide (q.last < r.lower) ||
    (decide (r.step = 2 ∨ r.first = r.last) && decide (q.step = 2) &&
      decide ((r.lower + q.first) % 2 = 1))

theorem not_has_of_avoids {r q : CaseRun} (h : r.avoids q = true) {n : Nat} (hn : r.Has n) :
    ¬q.Has (r.lower + (n - r.first)) := by
  obtain ⟨hf, hl, hs⟩ := hn
  rintro ⟨qf, ql, qs⟩
  simp only [avoids, Bool.or_eq_true, Bool.and_eq_true, decide_eq_true_eq] at h
  unfold lowerLast at h
  have hd : n - r.first ≤ r.last - r.first := by omega
  rcases h with (h | h) | ⟨⟨hr, hq⟩, hodd⟩
  · omega
  · omega
  · rw [hq] at qs
    rcases hr with hr | hr
    · rw [hr] at hs
      omega
    · omega

/-- The lower cases of a run are alphanumeric characters, other than the capital dotted I, that no
run changes. -/
def isSettled (r : CaseRun) : Bool :=
  spans alphanumericIntervals r.lower r.lowerLast &&
    (decide (r.lowerLast < 0xD800) ||
      decide (0xDFFF < r.lower) && decide (r.lowerLast < 0x110000)) &&
    (decide (r.lowerLast < 0x130) || decide (0x130 < r.lower)) && caseRuns.all r.avoids

end CaseRun

theorem caseRuns_settled : caseRuns.all CaseRun.isSettled = true := by decide +kernel

/-! ## Lower cases by the table -/

theorem lowerBy_eq_self {rs : List CaseRun} {n : Nat} (h : ∀ r ∈ rs, ¬r.Has n) :
    lowerBy rs n = n := by
  induction rs with
  | nil => rfl
  | cons r rs ih =>
    unfold lowerBy
    split
    · split
      · next hl hf => exact absurd ⟨hf.1, hl, hf.2⟩ (h r List.mem_cons_self)
      · rfl
    · exact ih fun q hq => h q (List.mem_cons_of_mem _ hq)

theorem lowerBy_cases (rs : List CaseRun) (n : Nat) :
    lowerBy rs n = n ∨ ∃ r ∈ rs, r.Has n ∧ lowerBy rs n = r.lower + (n - r.first) := by
  induction rs with
  | nil => exact Or.inl rfl
  | cons r rs ih =>
    unfold lowerBy
    split
    · split
      · next hl hf => exact Or.inr ⟨r, List.mem_cons_self, ⟨hf.1, hl, hf.2⟩, rfl⟩
      · exact Or.inl rfl
    · rcases ih with ih | ⟨q, hq, hn, he⟩
      · exact Or.inl ih
      · exact Or.inr ⟨q, List.mem_cons_of_mem _ hq, hn, he⟩

/-- A character that a run brings in. -/
theorem lowerCase_of_run {r : CaseRun} (hr : r ∈ caseRuns) {n : Nat} (hn : r.Has n) :
    let d := Char.ofNat (r.lower + (n - r.first))
    lowercase d = [d] ∧ isAlphanumeric d = true := by
  intro d
  have hs := List.all_eq_true.1 caseRuns_settled r hr
  simp only [CaseRun.isSettled, Bool.and_eq_true, Bool.or_eq_true, decide_eq_true_eq] at hs
  obtain ⟨⟨⟨hspan, hvalid⟩, hdotted⟩, havoid⟩ := hs
  have hle : r.lower + (n - r.first) ≤ r.lowerLast := by
    have := hn.2.1
    unfold CaseRun.lowerLast
    omega
  have hnat : d.toNat = r.lower + (n - r.first) := by
    rw [Char.toNat_ofNat, if_pos]
    unfold Nat.isValidChar
    omega
  have hself : lowerBy caseRuns d.toNat = d.toNat := by
    rw [hnat]
    exact lowerBy_eq_self fun q hq =>
      CaseRun.not_has_of_avoids (List.all_eq_true.1 havoid q hq) hn
  have hne : d ≠ '\u0130' := by
    intro he
    have : d.toNat = 0x130 := by rw [he]; rfl
    omega
  constructor
  · rw [lowercase, if_neg hne, hself, Char.ofNat_toNat]
  · unfold isAlphanumeric
    rw [hnat]
    exact within_of_spans hspan (by omega) hle

/-- Any character but the capital dotted I has a lower case of one character, which is its own
lower case.  It is the character itself or alphanumeric. -/
theorem lowercase_of_ne {c : Char} (hc : c ≠ '\u0130') :
    ∃ d, lowercase c = [d] ∧ lowercase d = [d] ∧ (d = c ∨ isAlphanumeric d = true) := by
  have hlower : lowercase c = [Char.ofNat (lowerBy caseRuns c.toNat)] := by
    rw [lowercase, if_neg hc]
  rcases lowerBy_cases caseRuns c.toNat with hself | ⟨r, hr, hn, he⟩
  · rw [hself, Char.ofNat_toNat] at hlower
    exact ⟨c, hlower, hlower, Or.inl rfl⟩
  · rw [he] at hlower
    obtain ⟨hfix, halnum⟩ := lowerCase_of_run hr hn
    exact ⟨_, hlower, hfix, Or.inr halnum⟩

theorem lowercase_dotted : lowercase '\u0130' = ['i', '\u0307'] := rfl

/-- The capital dotted I is nobody's lower case. -/
theorem ne_dotted_of_lowercase {d : Char} (h : lowercase d = [d]) : d ≠ '\u0130' := by
  rintro rfl
  rw [lowercase_dotted] at h
  simp at h

end BargeIn.Unicode
