import Mathlib
import BargeIn.Proofs.Number.Rounding

/-!
# Rounding keeps the order

A greater quotient is not rounded to a smaller magnitude (`round_le_round`).  So the rounded sum of
numbers that are not below zero grows with its terms, and a rounded quotient with its dividend
(`Rises.add`, `Rises.div`), through overflow to infinity too.  What a rounded sum can lose
is a part in twice the binade (`le_units_round`).
-/

namespace BargeIn.Number

namespace Format

variable {F : Format}

section

variable (heven : 2 ∣ F.binade)
include heven

theorem round_le_round {num den num' den' : Nat} (hden : 0 < den) (hden' : 0 < den')
    (h : (num : Rat) / den ≤ num' / den') : F.round num den ≤ F.round num' den' := by
  obtain ⟨s, r, hround, hstepped⟩ := F.exists_stepped num hden
  obtain ⟨s', r', hround', hstepped'⟩ := F.exists_stepped num' hden'
  have hle := (hstepped'.nearest heven).le (hstepped.nearest heven) h
  rw [hround, hround']
  omega

/-- A quotient that reaches a magnitude is not rounded below it. -/
theorem le_round {code num den : Nat} (hden : 0 < den) (hcode : code ≤ F.top)
    (h : (F.units code : Rat) ≤ num / den) : code ≤ F.round num den := by
  have hself : F.round (F.units code) 1 = code :=
    round_eq_of_units heven one_pos hcode (by rw [Nat.cast_one, div_one])
  calc code = F.round (F.units code) 1 := hself.symm
    _ ≤ F.round num den := round_le_round heven one_pos hden (by rwa [Nat.cast_one, div_one])

end

/-- A natural number of units loses a part in twice the binade at most, unless it overflows. -/
theorem le_units_round (num : Nat) : F.round num 1 = F.top ∨
    (num : Rat) * (2 * F.binade) ≤ F.units (F.round num 1) * (2 * F.binade + 1) := by
  obtain ⟨s, r, hround, hstepped⟩ := F.exists_stepped num one_pos
  rw [Nat.cast_one, div_one] at hstepped
  rcases Nat.le_total F.top (s * F.binade + r) with hle | hle
  · left
    rw [hround, Nat.min_eq_left hle]
  right
  rw [hround, Nat.min_eq_right hle, hstepped.units_eq]
  have hnear := (abs_le.1 hstepped.two_mul_sub_le).1
  rcases Nat.eq_zero_or_pos s with hs | hs
  · -- steps of one unit: nothing is lost
    rw [hs, pow_zero, mul_one] at hnear ⊢
    have hnat : (2 * num : Rat) ≤ 2 * r + 1 := by linarith
    have hnat : 2 * num ≤ 2 * r + 1 := by exact_mod_cast hnat
    have hle : num ≤ r := by omega
    have hle : (num : Rat) ≤ r := by exact_mod_cast hle
    have hr : (0 : Rat) ≤ r := by positivity
    have hbinade : (0 : Rat) ≤ 2 * F.binade := by positivity
    calc (num : Rat) * (2 * F.binade) ≤ r * (2 * F.binade) := by gcongr
      _ ≤ r * (2 * F.binade + 1) := by linarith
  · -- half a step at most, of which there are a binade or more
    have hbinade : (F.binade : Rat) ≤ r := by
      exact_mod_cast hstepped.leading.resolve_left (by omega)
    have hstep : (F.binade : Rat) * 2 ^ s ≤ r * 2 ^ s := by gcongr
    have hhalf : (2 * num : Rat) ≤ 2 * (r * 2 ^ s) + 2 ^ s := by linarith
    have hscaled : (2 * num : Rat) * F.binade ≤ (2 * (r * 2 ^ s) + 2 ^ s) * F.binade := by gcongr
    linarith

end Format

/-! ## Numbers that are not below zero -/

namespace Binary

/-- The code of the magnitude, zero for what is not a number. -/
def code : Binary binary32 → Nat
  | .nan => 0
  | .real _ code _ => code

/-- A number that is not below zero, infinity among them; zero may have either sign. -/
def Unsigned : Binary binary32 → Prop
  | .nan => False
  | .real negative code _ => negative = true → code = 0

/-- Numbers in this order that are not below zero. -/
structure Rises (x y : Binary binary32) : Prop where
  left : x.Unsigned
  right : y.Unsigned
  code_le : x.code ≤ y.code

variable {x y z : Binary binary32}

theorem two_dvd_binade32 : 2 ∣ binary32.binade := by decide

theorem code_le_top (x : Binary binary32) : x.code ≤ binary32.top := by
  cases x with
  | nan => exact Nat.zero_le _
  | real s a ha => exact ha

theorem Unsigned.value?_eq (hx : x.Unsigned) : x.value? = some (binary32.units x.code : Int) := by
  cases x with
  | nan => exact hx.elim
  | real s a ha =>
    cases s with
    | false => rfl
    | true =>
      have hzero : a = 0 := hx rfl
      subst hzero
      simp [value?, code]

theorem Unsigned.below_iff (hx : x.Unsigned) (hy : y.Unsigned) : x.Below y ↔ x.code < y.code := by
  unfold Below
  rw [hx.value?_eq, hy.value?_eq]
  simp only [Option.mem_some_iff, exists_eq_left', Nat.cast_lt]
  exact binary32.strictMono_units.lt_iff_lt

theorem Unsigned.atMost_iff (hx : x.Unsigned) (hy : y.Unsigned) :
    x.AtMost y ↔ x.code ≤ y.code := by
  unfold AtMost
  rw [hx.value?_eq, hy.value?_eq]
  simp only [Option.mem_some_iff, exists_eq_left', Nat.cast_le]
  exact binary32.strictMono_units.le_iff_le

/-- What is at least a number that is not below zero is not below zero. -/
theorem Unsigned.rises (hx : x.Unsigned) (h : x.AtMost y) : Rises x y := by
  have hy : y.Unsigned := by
    obtain ⟨a, ha, b, hb, hab⟩ := h
    rw [hx.value?_eq, Option.mem_some_iff] at ha
    cases y with
    | nan => simp [value?] at hb
    | real t c hc =>
      rintro rfl
      have hb : -(binary32.units c : Int) = b := by simpa [value?] using hb
      have hzero : binary32.units c = 0 := by omega
      by_contra hne
      exact absurd (binary32.units_pos hne) (by omega)
  exact ⟨hx, hy, (hx.atMost_iff hy).1 h⟩

theorem round_zero {den : Nat} (hden : 0 < den) : binary32.round 0 den = 0 := by
  apply Format.round_eq_of_units two_dvd_binade32 hden (Nat.zero_le _)
  rw [Nat.cast_zero, zero_div, binary32.units_zero, Nat.cast_zero]

theorem unsigned_ofUnits (num den : Nat) :
    (ofUnits false num den : Binary binary32).Unsigned := fun h => by cases h

/-! ## Sums -/

theorem rank_of_unsigned {s : Bool} {a : Nat} (h : s = true → a = 0) :
    rank s (binary32.units a) = binary32.units a := by
  cases s with
  | false => rfl
  | true => simp [rank, h rfl]

theorem round_eq_top {num : Nat} (h : binary32.units binary32.top ≤ num) :
    binary32.round num 1 = binary32.top := by
  refine Nat.le_antisymm (binary32.round_le_top _ _)
    (Format.le_round two_dvd_binade32 one_pos le_rfl ?_)
  rw [Nat.cast_one, div_one]
  exact_mod_cast h

/-- What has a magnitude has no sign. -/
theorem Unsigned.sign_eq {s : Bool} {a : Nat} {ha : a ≤ binary32.top}
    (h : (real s a ha : Binary binary32).Unsigned) (hne : a ≠ 0) : s = false := by
  cases s with
  | false => rfl
  | true => exact absurd (h rfl) hne

/-- The sum is the rounded sum of the magnitudes, where infinity counts as the next magnitude. -/
theorem Unsigned.add (hx : x.Unsigned) (hy : y.Unsigned) : (x.add y).Unsigned ∧
    (x.add y).code = binary32.round (binary32.units x.code + binary32.units y.code) 1 := by
  have htop : binary32.top ≠ 0 := by decide
  cases x with
  | nan => exact hx.elim
  | real s a ha =>
  cases y with
  | nan => exact hy.elim
  | real t b hb =>
  show (Binary.add (real s a ha) (real t b hb)).Unsigned ∧
    (Binary.add (real s a ha) (real t b hb)).code =
      binary32.round (binary32.units a + binary32.units b) 1
  simp only [Binary.add]
  by_cases hinf : a = binary32.top
  · have hboth : ¬(b = binary32.top ∧ s ≠ t) := by
      rintro ⟨hinf', hne⟩
      apply hne
      rw [hx.sign_eq (hinf ▸ htop), hy.sign_eq (hinf' ▸ htop)]
    rw [if_pos hinf, if_neg hboth]
    refine ⟨hx, ?_⟩
    show a = _
    rw [hinf, round_eq_top (Nat.le_add_right _ _)]
  by_cases hinf' : b = binary32.top
  · rw [if_neg hinf, if_pos hinf']
    refine ⟨hy, ?_⟩
    show b = _
    rw [hinf', round_eq_top (Nat.le_add_left _ _)]
  rw [if_neg hinf, if_neg hinf', rank_of_unsigned hx, rank_of_unsigned hy, ← Nat.cast_add,
    Int.natAbs_natCast]
  refine ⟨?_, rfl⟩
  -- a sum with a sign is zero
  intro hsign
  by_cases hsum : ((binary32.units a + binary32.units b : Nat) : Int) = 0
  · rw [Int.natCast_eq_zero.1 hsum]
    rfl
  · rw [if_neg hsum] at hsign
    have hlow := of_decide_eq_true hsign
    omega

theorem Rises.add {x' y' : Binary binary32} (hx : Rises x x') (hy : Rises y y') :
    Rises (x.add y) (x'.add y') := by
  obtain ⟨hleft, hcode⟩ := hx.left.add hy.left
  obtain ⟨hright, hcode'⟩ := hx.right.add hy.right
  refine ⟨hleft, hright, ?_⟩
  rw [hcode, hcode']
  apply Format.round_le_round two_dvd_binade32 one_pos one_pos
  rw [Nat.cast_one, div_one, div_one]
  exact_mod_cast Nat.add_le_add (binary32.strictMono_units.monotone hx.code_le)
    (binary32.strictMono_units.monotone hy.code_le)

/-! ## Quotients -/

/-- The quotient of two magnitudes is rounded, unless one of them is infinite. -/
theorem Unsigned.div (hx : x.Unsigned) (hy : y.Unsigned) (hpos : y.code ≠ 0)
    (hfinite : y.code ≠ binary32.top) : (x.div y).Unsigned ∧
    (x.div y).code = if x.code = binary32.top then binary32.top else
      binary32.round (binary32.units x.code * binary32.unity) (binary32.units y.code) := by
  cases x with
  | nan => exact hx.elim
  | real s a ha =>
  cases y with
  | nan => exact hy.elim
  | real t b hb =>
  have ht : t = false := hy.sign_eq hpos
  subst ht
  have hb0 : ¬b = 0 := hpos
  have hbtop : ¬b = binary32.top := hfinite
  show (Binary.div (real s a ha) (real false b hb)).Unsigned ∧
    (Binary.div (real s a ha) (real false b hb)).code = if a = binary32.top then binary32.top else
      binary32.round (binary32.units a * binary32.unity) (binary32.units b)
  simp only [Binary.div, if_neg hb0, if_neg hbtop]
  by_cases hinf : a = binary32.top
  · have hs : s = false := hx.sign_eq (by rw [hinf]; decide)
    rw [if_pos hinf, if_pos hinf, hs]
    exact ⟨fun h => absurd h (by decide), rfl⟩
  · rw [if_neg hinf, if_neg hinf]
    refine ⟨fun hsign => ?_, rfl⟩
    -- a quotient with a sign is zero
    have hs : s = true := by simpa using hsign
    rw [hx hs, binary32.units_zero, Nat.zero_mul]
    exact round_zero (binary32.units_pos hb0)

/-- What is divided by infinity is zero, or not a number. -/
theorem Unsigned.div_top (hx : x.Unsigned) (hy : y.Unsigned) (hinf : y.code = binary32.top) :
    if x.code = binary32.top then x.div y = .nan else (x.div y).Unsigned ∧ (x.div y).code = 0 := by
  cases x with
  | nan => exact hx.elim
  | real s a ha =>
  cases y with
  | nan => exact hy.elim
  | real t b hb =>
  have hb' : b = binary32.top := hinf
  show if a = binary32.top then Binary.div (real s a ha) (real t b hb) = .nan else
    (Binary.div (real s a ha) (real t b hb)).Unsigned ∧
      (Binary.div (real s a ha) (real t b hb)).code = 0
  simp only [Binary.div, if_pos hb']
  split
  · rfl
  · exact ⟨fun _ => rfl, rfl⟩

theorem Rises.div (h : Rises x z) (hy : y.Unsigned) (hpos : y.code ≠ 0)
    (hfinite : y.code ≠ binary32.top) : Rises (x.div y) (z.div y) := by
  obtain ⟨hleft, hcode⟩ := h.left.div hy hpos hfinite
  obtain ⟨hright, hcode'⟩ := h.right.div hy hpos hfinite
  refine ⟨hleft, hright, ?_⟩
  have hunits : 0 < binary32.units y.code := binary32.units_pos hpos
  by_cases hinf : z.code = binary32.top
  · rw [hcode', if_pos hinf]
    exact code_le_top _
  · have hinf' : x.code ≠ binary32.top := by
      have := h.code_le
      have := code_le_top z
      omega
    rw [hcode, hcode', if_neg hinf, if_neg hinf']
    apply Format.round_le_round two_dvd_binade32 hunits hunits
    have hle : (binary32.units x.code : Rat) ≤ binary32.units z.code :=
      Format.units_le_units h.code_le
    push_cast
    gcongr

end Binary

end BargeIn.Number
