import Mathlib
import BargeIn.Number.Shortest
import BargeIn.Proofs.Number.Rounding

/-!
# The shortest decimal

The decimal that stands for a magnitude is one of the two points around it on a grid, and rounding
it gives the magnitude back (`shortestDecimal_spec`).  On a grid finer than half the gap below the
magnitude the point below always stands for it, so the search ends while a decimal has few digits.
-/

namespace BargeIn.Number

/-! ## Powers of ten -/

theorem lt_pow_length_toDigits (n : Nat) : n < 10 ^ (Nat.toDigits 10 n).length :=
  (Nat.length_toDigits_le_iff (by decide) Nat.length_toDigits_pos).1 (Nat.le_refl _)

theorem pow_length_toDigits_le {n : Nat} (hn : n ≠ 0) :
    10 ^ ((Nat.toDigits 10 n).length - 1) ≤ n := by
  by_contra hlt
  rcases Nat.eq_zero_or_pos ((Nat.toDigits 10 n).length - 1) with hzero | hpos
  · rw [hzero, pow_zero] at hlt
    omega
  · have hle := (Nat.length_toDigits_le_iff (by decide) hpos).2 (Nat.not_le.1 hlt)
    omega

/-- A power with a whole exponent, without inverses. -/
theorem ten_zpow_eq (k : Int) : (10 : Rat) ^ k = 10 ^ k.toNat / 10 ^ (-k).toNat := by
  rcases Int.le_total 0 k with hk | hk
  · obtain ⟨n, rfl⟩ := Int.eq_ofNat_of_zero_le hk
    simp
  · obtain ⟨n, hn⟩ := Int.eq_ofNat_of_zero_le (Int.neg_nonneg.2 hk)
    obtain rfl : k = -n := by omega
    simp

/-- The exact value. -/
def Decimal.value (d : Decimal) : Rat := d.digits * 10 ^ d.exponent

namespace Format

variable {F : Format} {code : Nat}

/-- The leading decimal digit of a fraction stands at its exponent. -/
theorem leadingExponent_spec {num den : Nat} (hnum : 0 < num) (hden : 0 < den) :
    (10 : Rat) ^ leadingExponent num den ≤ num / den ∧
      (num : Rat) / den < 10 ^ (leadingExponent num den + 1) := by
  have hposn : (0 : Rat) < num := by exact_mod_cast hnum
  have hposd : (0 : Rat) < den := by exact_mod_cast hden
  unfold leadingExponent
  split
  · next hle =>
    have hne : num / den ≠ 0 := (Nat.div_pos hle hden).ne'
    have hlow := pow_length_toDigits_le hne
    have hhigh := lt_pow_length_toDigits (num / den)
    have hlength : 0 < (Nat.toDigits 10 (num / den)).length := Nat.length_toDigits_pos
    generalize (Nat.toDigits 10 (num / den)).length = w at *
    rw [Int.sub_add_cancel, zpow_natCast, ← Nat.cast_pred hlength, zpow_natCast,
      le_div_iff₀ hposd, div_lt_iff₀ hposd]
    exact ⟨by exact_mod_cast (Nat.le_div_iff_mul_le hden).1 hlow,
      by exact_mod_cast (Nat.div_lt_iff_lt_mul hden).1 hhigh⟩
  · next hlt =>
    have hne : (den - 1) / num ≠ 0 := (Nat.div_pos (by omega) hnum).ne'
    have hlow := pow_length_toDigits_le hne
    have hhigh := lt_pow_length_toDigits ((den - 1) / num)
    have hlength : 0 < (Nat.toDigits 10 ((den - 1) / num)).length := Nat.length_toDigits_pos
    generalize (Nat.toDigits 10 ((den - 1) / num)).length = w at *
    have hnext : (-(w : Int) + 1) = -((w - 1 : Nat) : Int) := by omega
    rw [hnext, zpow_neg, zpow_neg, zpow_natCast, zpow_natCast, inv_le_comm₀ (by positivity)
      (by positivity), lt_inv_comm₀ (by positivity) (by positivity), inv_div,
      div_le_iff₀ hposn, lt_div_iff₀ hposn]
    constructor
    · have hmul := (Nat.div_lt_iff_lt_mul hnum).1 hhigh
      exact_mod_cast (by omega : den ≤ 10 ^ w * num)
    · have hmul := (Nat.le_div_iff_mul_le hnum).1 hlow
      exact_mod_cast (by omega : 10 ^ (w - 1) * num < den)

/-! ## Points of a grid -/

/-- A decimal stands for the magnitude that it is rounded to. -/
theorem standsFor_iff {d : Decimal} :
    F.standsFor d code = true ↔ F.Nearest code (d.value * F.unity) := by
  have hten : (0 : Rat) < 10 ^ (-d.exponent).toNat := by positivity
  have hpoint : 2 * (d.value * F.unity) * 10 ^ (-d.exponent).toNat =
      ((d.digits * Nat.pow 10 d.exponent.toNat * (2 * F.unity) : Nat) : Rat) := by
    unfold Decimal.value
    rw [ten_zpow_eq]
    push_cast [Nat.pow_eq]
    field_simp
  have hlower (a b : Nat) : (a + b : Rat) ≤ 2 * (d.value * F.unity) ↔
      (a + b) * Nat.pow 10 (-d.exponent).toNat ≤
        d.digits * Nat.pow 10 d.exponent.toNat * (2 * F.unity) := by
    rw [← mul_le_mul_iff_left₀ hten, hpoint]
    norm_cast
  have hupper (a b : Nat) : 2 * (d.value * F.unity) ≤ (a + b : Rat) ↔
      d.digits * Nat.pow 10 d.exponent.toNat * (2 * F.unity) ≤
        (a + b) * Nat.pow 10 (-d.exponent).toNat := by
    rw [← mul_le_mul_iff_left₀ hten, hpoint]
    norm_cast
  unfold standsFor
  simp only
  split
  · next heven =>
    rw [decide_eq_true_iff, ← hlower, ← hupper]
    exact ⟨fun h => ⟨h.1, h.2, fun hodd => by omega⟩, fun h => ⟨h.low, h.high⟩⟩
  · next hodd =>
    rw [decide_eq_true_iff, ← Nat.not_le, ← Nat.not_le, ← hlower, ← hupper, not_le, not_le]
    exact ⟨fun h => ⟨h.1.le, h.2.le, fun _ => h⟩, fun h => h.odd (by omega)⟩

theorem roundEven_cases (num den : Nat) :
    roundEven num den = num / den ∨ roundEven num den = num / den + 1 := by
  unfold roundEven
  simp only
  split
  · exact .inl rfl
  · split <;> omega

/-- The magnitude in steps of a grid lies between the two points that are looked at. -/
theorem floor_grid (F : Format) (code : Nat) (k : Int) :
    let floor := F.units code * Nat.pow 10 (-k).toNat / (F.unity * Nat.pow 10 k.toNat)
    (floor : Rat) * 10 ^ k * F.unity ≤ F.units code ∧
      (F.units code : Rat) < (floor + 1) * 10 ^ k * F.unity := by
  have hunity : 0 < F.unity := by exact_mod_cast F.unity_pos
  have hden : 0 < F.unity * 10 ^ k.toNat := Nat.mul_pos hunity (Nat.pow_pos (by decide))
  have hten : (0 : Rat) < 10 ^ (-k).toNat := by positivity
  simp only [Nat.pow_eq]
  have hlow := Nat.div_mul_le_self (F.units code * 10 ^ (-k).toNat) (F.unity * 10 ^ k.toNat)
  have hhigh := Nat.lt_div_mul_add (a := F.units code * 10 ^ (-k).toNat) hden
  rw [← Nat.succ_mul] at hhigh
  rw [ten_zpow_eq, mul_div_assoc', div_mul_eq_mul_div, div_le_iff₀ hten, mul_div_assoc',
    div_mul_eq_mul_div, lt_div_iff₀ hten, mul_right_comm _ _ (F.unity : Rat),
    mul_assoc _ (F.unity : Rat), mul_right_comm _ _ (F.unity : Rat), mul_assoc _ (F.unity : Rat)]
  exact ⟨by exact_mod_cast hlow, by exact_mod_cast hhigh⟩

/-- The point that is found on a grid stands for the magnitude and is next to it. -/
theorem nearestOn_eq_some {k : Int} {d : Decimal} (h : F.nearestOn code k = some d) :
    d.exponent = k ∧ F.Nearest code (d.value * F.unity) ∧
      |d.value * F.unity - F.units code| ≤ 10 ^ k * F.unity := by
  have hten : (0 : Rat) < 10 ^ k * F.unity := mul_pos (by positivity) F.unity_pos
  obtain ⟨hlow, hhigh⟩ := F.floor_grid code k
  unfold nearestOn at h
  simp only at h
  generalize F.units code * Nat.pow 10 (-k).toNat = num at *
  generalize F.unity * Nat.pow 10 k.toNat = den at *
  have hfound : F.standsFor d code = true ∧ (d = ⟨num / den, k⟩ ∨ d = ⟨num / den + 1, k⟩) := by
    split at h
    · next hbelow habove =>
      cases h
      rcases roundEven_cases num den with heven | heven
      · rw [heven]
        exact ⟨hbelow, .inl rfl⟩
      · rw [heven]
        exact ⟨habove, .inr rfl⟩
    · next hbelow _ =>
      cases h
      exact ⟨hbelow, .inl rfl⟩
    · next _ habove =>
      cases h
      exact ⟨habove, .inr rfl⟩
    · cases h
  obtain ⟨hstands, hpoint⟩ := hfound
  refine ⟨?_, standsFor_iff.1 hstands, ?_⟩
  · rcases hpoint with rfl | rfl <;> rfl
  · rw [abs_le]
    rcases hpoint with rfl | rfl
    · simp only [Decimal.value]
      constructor <;> linarith
    · simp only [Decimal.value]
      push_cast
      constructor <;> linarith

/-- On a grid that is finer than half the gap below a magnitude, the point below stands for it. -/
theorem isSome_nearestOn {k : Int}
    (h : 2 * (10 ^ k * F.unity) ≤ (F.units code - F.units (code - 1) : Rat)) :
    (F.nearestOn code k).isSome = true := by
  obtain ⟨hlow, hhigh⟩ := F.floor_grid code k
  have hnext : (F.units code : Rat) < F.units (code + 1) := units_lt_units (Nat.lt_succ_self code)
  have hbelow : F.standsFor
      ⟨F.units code * Nat.pow 10 (-k).toNat / (F.unity * Nat.pow 10 k.toNat), k⟩ code = true := by
    rw [standsFor_iff]
    simp only [Decimal.value]
    refine ⟨by linarith, by linarith, fun _ => ⟨by linarith, by linarith⟩⟩
  unfold nearestOn
  simp only [hbelow]
  split <;> simp_all

/-! ## The search -/

theorem nearestOn_searchGrids {low : Int} (hlow : (F.nearestOn code low).isSome = true)
    {steps : Nat} {k : Int} (hle : low ≤ k) (hsteps : k < low + steps) :
    ∃ k', low ≤ k' ∧ k' ≤ k ∧ F.nearestOn code k' = some (F.searchGrids code steps k) := by
  induction steps generalizing k with
  | zero => omega
  | succ steps ih =>
    unfold searchGrids
    cases hk : F.nearestOn code k with
    | some d => exact ⟨k, hle, Int.le_refl k, hk⟩
    | none =>
      have hne : low ≠ k := by
        rintro rfl
        simp [hk] at hlow
      obtain ⟨k', hlow', hle', hfound⟩ := ih (k := k - 1) (by omega) (by omega)
      exact ⟨k', hlow', by omega, hfound⟩

/-- Zero stands for no magnitude but zero. -/
theorem digits_ne_zero_of_nearestOn (hcode : code ≠ 0) {k : Int} {d : Decimal}
    (h : F.nearestOn code k = some d) : d.digits ≠ 0 := by
  intro hzero
  obtain ⟨-, hnearest, -⟩ := nearestOn_eq_some h
  have hlow := hnearest.low
  rw [Decimal.value, hzero, Nat.cast_zero, zero_mul, zero_mul, mul_zero] at hlow
  have hsum : F.units (code - 1) + F.units code ≤ 0 := by exact_mod_cast hlow
  have hpos := F.units_pos hcode
  omega

theorem shortestDecimal_digits_ne_zero (hcode : code ≠ 0) :
    (F.shortestDecimal code).digits ≠ 0 := by
  unfold shortestDecimal
  generalize leadingExponent (F.units code) F.unity = k
  induction F.precision + 1 generalizing k with
  | zero => exact (Nat.mul_pos (F.units_pos hcode) (Nat.pow_pos (by decide))).ne'
  | succ steps ih =>
    unfold searchGrids
    split
    · next d h => exact digits_ne_zero_of_nearestOn hcode h
    · exact ih (k - 1)

/-- A magnitude is at most twice the binade times the gap below it. -/
theorem units_le_mul_gap (hcode : code ≠ 0) :
    (F.units code : Rat) ≤ 2 * F.binade * (F.units code - F.units (code - 1)) := by
  have hpos := F.binade_pos
  obtain ⟨q, m, rfl, hm, hq⟩ := F.exists_scaled code
  by_cases hinner : 1 ≤ m ∧ (q = 0 ∨ F.binade ≤ m - 1)
  · have hsteps : (m : Rat) ≤ 2 * F.binade := by exact_mod_cast hm.le
    rw [Nat.add_sub_assoc hinner.1, F.units_scaled hm.le hq, F.units_scaled (by omega) hinner.2]
    push_cast [hinner.1]
    calc (m : Rat) * 2 ^ q ≤ 2 * F.binade * 2 ^ q := by gcongr
      _ = 2 * F.binade * (m * 2 ^ q - (m - 1) * 2 ^ q) := by ring
  · -- the magnitude before is in another binade, with steps half as wide
    have hne : q ≠ 0 := by
      rintro rfl
      omega
    obtain ⟨p, rfl⟩ := Nat.exists_eq_succ_of_ne_zero hne
    obtain rfl : m = F.binade := by omega
    have hbefore : p.succ * F.binade + F.binade - 1 = p * F.binade + (2 * F.binade - 1) := by
      rw [Nat.succ_mul]
      omega
    have hone : 1 ≤ 2 * F.binade := by omega
    rw [hbefore, F.units_scaled hm.le hq, F.units_scaled (by omega) (.inr (by omega))]
    push_cast [hone]
    rw [pow_succ]
    linarith

/-- The shortest decimal of a magnitude is rounded to it, is next to it on its grid, and has few
digits. -/
theorem shortestDecimal_spec (hcode : code ≠ 0) {t : Nat} (ht : 4 * F.binade ≤ 10 ^ t)
    (hsteps : t ≤ F.precision) :
    let d := F.shortestDecimal code
    F.Nearest code (d.value * F.unity) ∧
      |d.value * F.unity - F.units code| ≤ 10 ^ d.exponent * F.unity ∧
      leadingExponent (F.units code) F.unity - t ≤ d.exponent ∧
      d.exponent ≤ leadingExponent (F.units code) F.unity ∧ d.digits ≤ 10 ^ (t + 1) := by
  intro d
  have hunity := F.unity_pos
  obtain ⟨hleast, hless⟩ := leadingExponent_spec (F.units_pos hcode) (by exact_mod_cast hunity)
  set lead := leadingExponent (F.units code) F.unity with hlead
  rw [le_div_iff₀ hunity] at hleast
  rw [div_lt_iff₀ hunity] at hless
  have hfine : (F.nearestOn code (lead - t)).isSome = true := by
    apply isSome_nearestOn
    have hgap := units_le_mul_gap (F := F) hcode
    have hpow : (4 * F.binade : Rat) ≤ 10 ^ t := by exact_mod_cast ht
    have hbinade : (0 : Rat) < F.binade := by exact_mod_cast F.binade_pos
    have hpos : 0 ≤ (F.units code - F.units (code - 1) : Rat) := by
      have hle : (F.units (code - 1) : Rat) ≤ F.units code := units_le_units (Nat.sub_le code 1)
      linarith
    rw [zpow_sub₀ (by norm_num), zpow_natCast, div_mul_eq_mul_div, mul_div_assoc',
      div_le_iff₀ (by positivity)]
    nlinarith
  have hfirst : lead - t ≤ lead := by omega
  have hlast : lead < lead - t + (F.precision + 1 : Nat) := by
    push_cast
    omega
  obtain ⟨k, hlow, hhigh, hfound⟩ := nearestOn_searchGrids hfine hfirst hlast
  obtain ⟨hexponent, hnearest, hnext⟩ := nearestOn_eq_some hfound
  change d.exponent = k at hexponent
  change F.Nearest code (d.value * F.unity) at hnearest
  change |d.value * F.unity - F.units code| ≤ _ at hnext
  rw [hexponent]
  refine ⟨hnearest, hnext, hlow, hhigh, ?_⟩
  -- in steps of the grid the magnitude is less than a power of ten
  have hgrid : (F.units code : Rat) < 10 ^ (t + 1) * (10 ^ k * F.unity) := by
    calc (F.units code : Rat) < 10 ^ (lead + 1) * F.unity := hless
      _ ≤ 10 ^ ((t + 1 : Nat) + k) * F.unity :=
        mul_le_mul_of_nonneg_right (zpow_le_zpow_right₀ (by norm_num) (by push_cast; omega))
          hunity.le
      _ = 10 ^ (t + 1) * (10 ^ k * F.unity) := by
        rw [zpow_add₀ (by norm_num), zpow_natCast, mul_assoc]
  have hdigits : (d.digits : Rat) * (10 ^ k * F.unity) <
      (10 ^ (t + 1) + 1) * (10 ^ k * F.unity) := by
    have hvalue : d.value * F.unity = d.digits * (10 ^ k * F.unity) := by
      rw [Decimal.value, hexponent, mul_assoc]
    rw [← hvalue]
    linarith [(abs_le.1 hnext).2]
  have hless := lt_of_mul_lt_mul_right hdigits (by positivity)
  exact Nat.lt_succ_iff.1 (by exact_mod_cast hless)

end Format

end BargeIn.Number
