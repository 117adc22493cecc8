import Mathlib
import BargeIn.Proofs.Number.NearMiss
import BargeIn.Proofs.Number.Shortest

/-!
# Decimals near half way between two singles

A value close to a decimal is rounded to another single than the decimal only if the decimal lies
near the point half way between two magnitudes (`nearest_of_close`).  In a binade with steps of
`2 ^ q` units these points are odd multiples of half a step.  A decimal that is next to a magnitude
on its grid and near such a point is a multiple of `10 ^ gridOf q`, so that the two are a near miss
of multiples of whole numbers, of which there are few (`halfWay_cases`).

Lengths are measured in half units of the format, `2 ^ -150`.
-/

namespace BargeIn.Number

/-! ## Singles -/

theorem unity32_eq : (binary32.unity : Rat) = 2 ^ 149 := binary32.cast_unity

/-- A value in half units. -/
theorem twice_eq (v : Rat) : 2 * (v * binary32.unity) = v * 2 ^ 150 := by
  rw [unity32_eq]
  ring

theorem units_top32 : (binary32.units binary32.top : Rat) = 2 ^ 127 * 2 ^ 150 := by
  have htop : binary32.top = 254 * binary32.binade + binary32.binade := rfl
  have hbinade : (binary32.binade : Rat) = 2 ^ 23 := binary32.cast_binade
  rw [htop, binary32.units_scaled (by omega) (.inr (Nat.le_refl _)), Nat.cast_mul, Nat.cast_pow,
    hbinade, Nat.cast_ofNat, ← pow_add, ← pow_add]

/-- The point half way between a magnitude and the next, in half units. -/
def halfWay (code : Nat) : Nat := binary32.units code + binary32.units (code + 1)

/-- The steps of a finite magnitude and of the next. -/
theorem exists_steps {code : Nat} (hcode : code < binary32.top) :
    ∃ q m, code = q * 2 ^ 23 + m ∧ q < 254 ∧ m < 2 ^ 24 ∧ (q = 0 ∨ 2 ^ 23 ≤ m) ∧
      binary32.units code = m * 2 ^ q ∧ binary32.units (code + 1) = (m + 1) * 2 ^ q := by
  obtain ⟨q, m, rfl, hm, hq⟩ := binary32.exists_scaled code
  have hunits := binary32.units_scaled hm.le hq
  have hunits' : binary32.units (q * binary32.binade + m + 1) = (m + 1) * 2 ^ q := by
    rw [Nat.add_assoc]
    exact binary32.units_scaled hm (hq.imp_right Nat.le_succ_of_le)
  have hbinade : binary32.binade = 2 ^ 23 := rfl
  have htop : binary32.top = 255 * 2 ^ 23 := rfl
  have hbelow : q < 254 := by
    rw [hbinade, htop] at hcode
    rw [hbinade] at hq
    clear hbinade htop hm
    omega
  rw [hbinade] at hm hq
  refine ⟨q, m, by rw [hbinade], hbelow, ?_, hq, hunits, hunits'⟩
  clear hbinade htop
  omega

/-! ## Near misses -/

/-- The finest grid that is not much finer than the steps of a binade. -/
def gridOf (q : Nat) : Int := (((q : Int) - 151) * 30103 - 1) / 100000 + 1

/-- Half a step of a binade; the unit of this and of `gridPoint` makes both whole numbers. -/
def halfStep (q : Nat) : Nat := 2 ^ q * 10 ^ (-gridOf q).toNat

/-- The distance of two points of the grid. -/
def gridPoint (q : Nat) : Nat := 10 ^ (gridOf q).toNat * 2 ^ 150

/-- The odd numbers of half steps that nearly meet a point of the grid. -/
def missesOf (q : Nat) : List Int :=
  (nearMisses (halfStep q) (gridPoint q) (2 ^ 25) (halfStep q / 2 ^ 26)).filter fun m =>
    m % 2 = 1 ∧ (q = 0 ∨ 2 ^ 24 < m)

theorem lt_of_gridOf : ∀ q < 254,
    10 ^ (gridOf q - 1).toNat * 2 ^ 151 < 2 ^ q * 10 ^ (-(gridOf q - 1)).toNat := by
  decide +kernel

theorem gridOf_le {q : Nat} (hq : q < 254) {k : Int} (h : (2 : Rat) ^ q ≤ 10 ^ k * 2 ^ 151) :
    gridOf q ≤ k := by
  by_contra hlt
  have hcheck : ((10 ^ (gridOf q - 1).toNat * 2 ^ 151 : Nat) : Rat) <
      (2 ^ q * 10 ^ (-(gridOf q - 1)).toNat : Nat) := Nat.cast_lt.2 (lt_of_gridOf q hq)
  push_cast at hcheck
  have hcoarser : (10 : Rat) ^ k ≤ 10 ^ (gridOf q - 1) :=
    zpow_le_zpow_right₀ (by norm_num) (by omega)
  have hless : (10 : Rat) ^ (gridOf q - 1) * 2 ^ 151 < 2 ^ q := by
    rw [ten_zpow_eq, div_mul_eq_mul_div, div_lt_iff₀ (by positivity)]
    exact hcheck
  linarith

/-- A decimal of the grid is a number of its points. -/
theorem exists_points {q : Nat} {d : Decimal} (hgrid : gridOf q ≤ d.exponent) :
    ∃ n : Nat, d.value * 2 ^ 150 * 10 ^ (-gridOf q).toNat = n * gridPoint q := by
  obtain ⟨j, hj⟩ := Int.eq_ofNat_of_zero_le (Int.sub_nonneg.2 hgrid)
  refine ⟨d.digits * 10 ^ j, ?_⟩
  have hexponent : d.exponent = j + gridOf q := by omega
  rw [Decimal.value, hexponent, zpow_add₀ (by norm_num), zpow_natCast, ten_zpow_eq (gridOf q),
    gridPoint]
  push_cast
  field_simp
  norm_num

/-- What is close beside the number of points is close beside half a step. -/
theorem natAbs_le_div {n b s a : Nat} (hs : s < 2 ^ 25)
    (hnear : |(n * b - s * a : Int)| * 2 ^ 51 ≤ n * b) :
    (n * b - s * a : Int).natAbs ≤ a / 2 ^ 26 := by
  have hsteps : (s * a : Int) + a ≤ 2 ^ 25 * a := by
    have hnat : (s + 1) * a ≤ 2 ^ 25 * a := Nat.mul_le_mul_right a hs
    rw [Nat.succ_mul] at hnat
    exact_mod_cast hnat
  have hbetween := le_abs_self (n * b - s * a : Int)
  rw [Nat.le_div_iff_mul_le (by norm_num)]
  zify
  linarith

/-- An odd number of half steps that a decimal of the grid nearly meets is found. -/
theorem mem_missesOf {q m : Nat} (hm : m < 2 ^ 24) (hlead : q = 0 ∨ 2 ^ 23 ≤ m) {d : Decimal}
    (hgrid : gridOf q ≤ d.exponent) (hne : d.value * 2 ^ 150 ≠ (2 * m + 1 : Nat) * 2 ^ q)
    (hnear : |d.value * 2 ^ 150 - (2 * m + 1 : Nat) * 2 ^ q| * 2 ^ 51 ≤ d.value * 2 ^ 150) :
    ((2 * m + 1 : Nat) : Int) ∈ missesOf q := by
  have hscale : (0 : Rat) < 10 ^ (-gridOf q).toNat := by positivity
  have hpoint : 0 < gridPoint q := Nat.mul_pos (Nat.pow_pos (by decide)) (Nat.two_pow_pos 150)
  have hodd : 2 * m + 1 < 2 ^ 25 := by omega
  obtain ⟨n, hn⟩ := exists_points hgrid
  -- the distance as a whole number
  have hgap : (d.value * 2 ^ 150 - (2 * m + 1 : Nat) * 2 ^ q) * 10 ^ (-gridOf q).toNat =
      (n * gridPoint q - (2 * m + 1 : Nat) * halfStep q : Int) := by
    have hsteps : ((2 * m + 1 : Nat) : Rat) * 2 ^ q * 10 ^ (-gridOf q).toNat =
        (2 * m + 1 : Nat) * halfStep q := by
      rw [halfStep, mul_assoc]
      push_cast
      rfl
    rw [sub_mul, hn, hsteps]
    push_cast
    rfl
  have hclose := mul_le_mul_of_nonneg_right hnear hscale.le
  rw [mul_right_comm, ← abs_of_pos hscale, ← abs_mul, abs_of_pos hscale, hgap, hn] at hclose
  have hnatAbs := natAbs_le_div hodd (by exact_mod_cast hclose)
  unfold missesOf
  refine List.mem_filter.2 ⟨mem_nearMisses hpoint (Nat.succ_pos _) hodd ?_ hnatAbs, ?_⟩
  · intro hzero
    rw [hzero, Int.cast_zero, mul_eq_zero, sub_eq_zero] at hgap
    exact hgap.elim hne hscale.ne'
  · rw [decide_eq_true_iff]
    push_cast
    omega

/-- A decimal that is next to a magnitude on its grid and near half way lies on a grid that is not
much finer than the steps. -/
theorem two_pow_le_of_near {k : Int} {v x steps half : Rat} (hnext : |v - x| ≤ 10 ^ k * 2 ^ 150)
    (hhalf : |x - half| = steps) (hhigh : half ≤ 2 ^ 26 * steps) (hnear : |v - half| * 2 ^ 51 ≤ v) :
    steps ≤ 10 ^ k * 2 ^ 151 := by
  have hsteps := abs_nonneg (x - half)
  have hsplit := abs_sub_le x v half
  have habove := le_abs_self (v - half)
  rw [hhalf] at hsteps hsplit
  rw [abs_sub_comm x v] at hsplit
  linarith

/-- A decimal that is next to a magnitude on its grid is half way to the next magnitude, or far from
there, or one of the near misses. -/
theorem halfWay_cases {code : Nat} (hcode : code < binary32.top) {d : Decimal}
    (hnext : ∃ c, (c = code ∨ c = code + 1) ∧
      |d.value * binary32.unity - binary32.units c| ≤ 10 ^ d.exponent * binary32.unity) :
    d.value * 2 ^ 150 = halfWay code ∨
      d.value * 2 ^ 150 < |d.value * 2 ^ 150 - halfWay code| * 2 ^ 51 ∨
      ∃ q < 254, ∃ m : Nat, code = q * 2 ^ 23 + m ∧ ((2 * m + 1 : Nat) : Int) ∈ missesOf q := by
  by_cases hne : d.value * 2 ^ 150 = halfWay code
  · exact .inl hne
  rcases lt_or_ge (d.value * 2 ^ 150) (|d.value * 2 ^ 150 - halfWay code| * 2 ^ 51) with
    hfar | hnear
  · exact .inr (.inl hfar)
  obtain ⟨q, m, rfl, hq, hm, hlead, hunits, hunits'⟩ := exists_steps hcode
  have hhalf : (halfWay (q * 2 ^ 23 + m) : Rat) = (2 * m + 1 : Nat) * 2 ^ q := by
    unfold halfWay
    rw [hunits, hunits']
    push_cast
    ring
  rw [hhalf] at hne hnear
  have htwo : (0 : Rat) < 2 ^ q := by positivity
  obtain ⟨c, hc, hnext⟩ := hnext
  have hpoint : |d.value * 2 ^ 150 - 2 * binary32.units c| ≤ 10 ^ d.exponent * 2 ^ 150 := by
    rw [← twice_eq, ← twice_eq, ← mul_sub, abs_mul, abs_of_pos two_pos]
    exact mul_le_mul_of_nonneg_left hnext zero_le_two
  have hstep : |2 * (binary32.units c : Rat) - (2 * m + 1 : Nat) * 2 ^ q| = 2 ^ q := by
    rcases hc with rfl | rfl
    · rw [hunits, abs_sub_comm, abs_of_nonneg] <;> push_cast <;> linarith
    · rw [hunits', abs_of_nonneg] <;> push_cast <;> linarith
  have hhigh : ((2 * m + 1 : Nat) : Rat) * 2 ^ q ≤ 2 ^ 26 * 2 ^ q := by
    have hodd : 2 * m + 1 ≤ 2 ^ 26 := by omega
    exact mul_le_mul_of_nonneg_right (by exact_mod_cast hodd) htwo.le
  have hgrid := gridOf_le hq (two_pow_le_of_near hpoint hstep hhigh hnear)
  exact .inr (.inr ⟨q, hq, m, rfl, mem_missesOf hm hlead hgrid hne hnear⟩)

/-! ## Values close to a decimal -/

/-- What is close to `x` lies on the same side of a point from which `x` is far away. -/
theorem same_side {x y half : Rat} (hclose : |y - x| * 2 ^ 51 ≤ x)
    (hfar : x = half ∧ y = x ∨ x < |x - half| * 2 ^ 51) :
    ((x ≤ half → y ≤ half) ∧ (x < half → y < half)) ∧
      (half ≤ x → half ≤ y) ∧ (half < x → half < y) := by
  rcases hfar with ⟨rfl, rfl⟩ | hfar
  · exact ⟨⟨id, id⟩, id, id⟩
  obtain ⟨hlow, hhigh⟩ := abs_le.1 (le_refl |y - x|)
  rcases le_total x half with hle | hle
  · rw [abs_of_nonpos (by linarith)] at hfar
    refine ⟨⟨fun _ => ?_, fun _ => ?_⟩, fun _ => ?_, fun _ => ?_⟩ <;> linarith
  · rw [abs_of_nonneg (by linarith)] at hfar
    refine ⟨⟨fun _ => ?_, fun _ => ?_⟩, fun _ => ?_, fun _ => ?_⟩ <;> linarith

/-- What is close to a value with a nearest magnitude has the same one, if the value is far from
half way to the neighbours. -/
theorem nearest_of_close {code : Nat} (hcode : code ≠ 0) {x y : Rat} (h : binary32.Nearest code x)
    (hclose : |2 * y - 2 * x| * 2 ^ 51 ≤ 2 * x)
    (hfar : ∀ c, c + 1 = code ∨ c = code →
      2 * x = halfWay c ∧ 2 * y = 2 * x ∨ 2 * x < |2 * x - halfWay c| * 2 ^ 51) :
    binary32.Nearest code y := by
  obtain ⟨before, rfl⟩ := Nat.exists_eq_succ_of_ne_zero hcode
  obtain ⟨-, hbelow, hbelow'⟩ := same_side hclose (hfar before (.inl rfl))
  obtain ⟨⟨habove, habove'⟩, -⟩ := same_side hclose (hfar _ (.inr rfl))
  unfold halfWay at hbelow hbelow' habove habove'
  push_cast at hbelow hbelow' habove habove'
  exact ⟨hbelow h.low, habove h.high, fun hodd => ⟨hbelow' (h.odd hodd).1, habove' (h.odd hodd).2⟩⟩

end BargeIn.Number
