import Mathlib
import BargeIn.Proofs.Json.DecimalText

/-!
# The double of a decimal

A decimal `n * 10 ^ e` is read with two roundings: that of the power of ten, and that of the product
or quotient.  If it has few digits, the double is near it; and the double is the decimal itself if
this has few binary digits too, for then its exponent is so small that the power is held as it is
(`exists_doubleOf`).
-/

namespace BargeIn.Json

open BargeIn.Number

/-! ## Two roundings -/

theorem abs_mul_sub_le {x p b y : Rat} (hx : 0 ≤ x) (hp : 0 ≤ p) (hb : |b - p| * 2 ^ 53 ≤ p)
    (hy : |y - x * b| * 2 ^ 53 ≤ x * b) : |y - x * p| * 2 ^ 51 ≤ x * p := by
  have hfirst : |x * b - x * p| * 2 ^ 53 ≤ x * p := by
    rw [← mul_sub, abs_mul, abs_of_nonneg hx, mul_assoc]
    exact mul_le_mul_of_nonneg_left hb hx
  have hxp := mul_nonneg hx hp
  obtain ⟨hlow, hhigh⟩ := abs_le.1 (le_refl |x * b - x * p|)
  have htotal := abs_sub_le y (x * b) (x * p)
  linarith

theorem abs_div_sub_le {x p b y : Rat} (hx : 0 ≤ x) (hp : 0 < p) (hb : |b - p| * 2 ^ 53 ≤ p)
    (hy : |y - x / b| * 2 ^ 53 ≤ x / b) : |y - x / p| * 2 ^ 51 ≤ x / p := by
  obtain ⟨hlow, hhigh⟩ := abs_le.1 (le_refl |b - p|)
  have hbpos : 0 < b := by linarith
  have hhalf : p ≤ b * 2 := by linarith
  have hquotient : x / b ≤ 2 * (x / p) := by
    rw [mul_div_assoc', div_le_div_iff₀ hbpos hp]
    nlinarith
  have hfirst : |x / b - x / p| * 2 ^ 53 ≤ x / b := by
    have hsplit : x / b - x / p = x / b * ((p - b) / p) := by
      field_simp
    rw [hsplit, abs_mul, abs_of_nonneg (div_nonneg hx hbpos.le), abs_div, abs_of_pos hp,
      abs_sub_comm, mul_assoc, div_mul_eq_mul_div (|b - p|)]
    exact mul_le_of_le_one_right (div_nonneg hx hbpos.le) ((div_le_one hp).2 hb)
  have hxp := div_nonneg hx hp.le
  have htotal := abs_sub_le y (x / b) (x / p)
  linarith

section Range

variable {n u b : Rat} (hone : 1 ≤ n) (hn : n ≤ 10 ^ 14) (hu : 0 < u) (hlow : u ≤ 2 * b)
  (hhigh : b ≤ 2 * 10 ^ 60 * u)
include hone hn hu hlow hhigh

theorem range_mul : u ≤ n * b * 2 ^ 250 ∧ n * b ≤ 2 ^ 250 * u := by
  have hb : 0 < b := by linarith
  have hnb : b ≤ n * b := le_mul_of_one_le_left hb.le hone
  have hnb' : n * b ≤ 10 ^ 14 * b := mul_le_mul_of_nonneg_right hn hb.le
  constructor <;> linarith

theorem range_div : u ≤ n * u * u / b * 2 ^ 250 ∧ n * u * u / b ≤ 2 ^ 250 * u := by
  have hb : 0 < b := by linarith
  have hnu : u ≤ n * u := le_mul_of_one_le_left hu.le hone
  have hnu' : n * u ≤ 10 ^ 14 * u := mul_le_mul_of_nonneg_right hn hu.le
  constructor
  · rw [div_mul_eq_mul_div, le_div_iff₀ hb, mul_comm u b, mul_right_comm]
    exact mul_le_mul_of_nonneg_right (by linarith) hu.le
  · rw [div_le_iff₀ hb, mul_right_comm (2 ^ 250 : Rat)]
    calc n * u * u ≤ 10 ^ 14 * u * u := mul_le_mul_of_nonneg_right hnu' hu.le
      _ ≤ 2 ^ 250 * b * u := mul_le_mul_of_nonneg_right (by linarith) hu.le

end Range

/-! ## Doubles -/

theorem two_dvd_binade : 2 ∣ binary64.binade := by decide

theorem unity_eq : (binary64.unity : Rat) = 2 ^ 1074 := binary64.cast_unity

theorem binade_eq : (binary64.binade : Rat) = 2 ^ 52 := binary64.cast_binade

theorem units_top : (binary64.units binary64.top : Rat) = 2 ^ 1024 * binary64.unity := by
  have htop : binary64.top = 2046 * binary64.binade + binary64.binade := rfl
  rw [htop, binary64.units_scaled (by omega) (.inr (Nat.le_refl _)), Nat.cast_mul, Nat.cast_pow,
    binade_eq, unity_eq, Nat.cast_ofNat, ← pow_add, ← pow_add]

/-- In a wide range around one, rounding changes a value by a part in `2 ^ 53` at most. -/
theorem abs_round_sub_le {num den : Nat} (hden : 0 < den)
    (hlow : (binary64.unity : Rat) ≤ num / den * 2 ^ 250)
    (hhigh : (num : Rat) / den ≤ 2 ^ 250 * binary64.unity) :
    binary64.round num den < binary64.top ∧
      |(binary64.units (binary64.round num den) : Rat) - num / den| * 2 ^ 53 ≤ num / den := by
  have hnormal : (binary64.binade : Rat) ≤ num / den := by
    have hsplit : (2 : Rat) ^ 1074 = 2 ^ 824 * 2 ^ 250 := by rw [← pow_add]
    rw [unity_eq, hsplit] at hlow
    calc (binary64.binade : Rat) = 2 ^ 52 := binade_eq
      _ ≤ 2 ^ 824 := pow_le_pow_right₀ one_le_two (by decide)
      _ ≤ num / den := le_of_mul_le_mul_right hlow (by positivity)
  have hfinite : (num : Rat) / den * 2 < binary64.units binary64.top := by
    calc (num : Rat) / den * 2 ≤ 2 ^ 250 * binary64.unity * 2 := by gcongr
      _ = 2 ^ 251 * binary64.unity := by ring
      _ < 2 ^ 1024 * binary64.unity :=
        mul_lt_mul_of_pos_right (pow_lt_pow_right₀ one_lt_two (by decide)) binary64.unity_pos
      _ = binary64.units binary64.top := units_top.symm
  obtain ⟨hless, herror⟩ := Format.abs_units_round_sub_le hden hnormal hfinite
  refine ⟨hless, ?_⟩
  rw [binade_eq] at herror
  linarith only [herror]

/-- What has few binary digits is held as it is. -/
theorem round_eq_of_eq {num den m j : Nat} (hden : 0 < den) (hm : m ≤ 2 ^ 53)
    (hhigh : (num : Rat) / den ≤ 2 ^ 250 * binary64.unity) (h : (num : Rat) / den = m * 2 ^ j) :
    (binary64.units (binary64.round num den) : Rat) = m * 2 ^ j := by
  obtain ⟨c, hc⟩ := binary64.exists_units_eq (m := m) hm j
  have hunits : (num : Rat) / den = binary64.units c := by
    rw [h, hc]
    push_cast
    rfl
  have htop : c ≤ binary64.top := by
    rw [← binary64.strictMono_units.le_iff_le]
    have hwide : (2 : Rat) ^ 250 ≤ 2 ^ 1024 := pow_le_pow_right₀ one_le_two (by decide)
    have hle : (binary64.units c : Rat) ≤ binary64.units binary64.top := by
      rw [units_top, ← hunits]
      exact hhigh.trans (mul_le_mul_of_nonneg_right hwide binary64.unity_pos.le)
    exact_mod_cast hle
  rw [Format.round_eq_of_units two_dvd_binade hden htop hunits, ← hunits, h]

/-! ## Powers of ten -/

/-- The code of a natural number. -/
def codeOf (n : Nat) : Nat := binary64.round (n * binary64.unity) 1

theorem codeOf_le (n : Nat) : codeOf n ≤ binary64.top := Format.round_le_top ..

theorem ofNat_eq (n : Nat) : Binary.ofNat false n = .real false (codeOf n) (codeOf_le n) := rfl

/-- A natural number that is not too great becomes a double near it. -/
theorem codeOf_near {n : Nat} (hpos : 0 < n) (hn : n ≤ 2 ^ 250) :
    codeOf n < binary64.top ∧
      |(binary64.units (codeOf n) : Rat) - n * binary64.unity| * 2 ^ 53 ≤ n * binary64.unity := by
  have hunity := binary64.unity_pos
  have hone : (1 : Rat) ≤ n := by exact_mod_cast hpos
  have hle : (n : Rat) ≤ 2 ^ 250 := by exact_mod_cast hn
  have hvalue : ((n * binary64.unity : Nat) : Rat) / (1 : Nat) = n * binary64.unity := by
    push_cast
    rw [div_one]
  have hlow : (binary64.unity : Rat) ≤ n * binary64.unity * 2 ^ 250 := by
    generalize (binary64.unity : Rat) = unity at *
    nlinarith
  have hhigh : n * (binary64.unity : Rat) ≤ 2 ^ 250 * binary64.unity :=
    mul_le_mul_of_nonneg_right hle hunity.le
  rw [← hvalue] at hlow hhigh
  have hround := abs_round_sub_le one_pos hlow hhigh
  rwa [hvalue] at hround

/-- A natural number with few digits in front of its last zeros is held as it is. -/
theorem units_codeOf {m j : Nat} (hm : m ≤ 2 ^ 53) (hj : m * 2 ^ j ≤ 2 ^ 250) :
    (binary64.units (codeOf (m * 2 ^ j)) : Rat) = (m * 2 ^ j : Nat) * binary64.unity := by
  have hle : ((m * 2 ^ j : Nat) : Rat) ≤ 2 ^ 250 := by exact_mod_cast hj
  have hvalue : ((m * 2 ^ j * binary64.unity : Nat) : Rat) / (1 : Nat) =
      (m * 2 ^ j : Nat) * binary64.unity := by
    push_cast
    rw [div_one]
  have hscaled : ((m * 2 ^ j : Nat) : Rat) * binary64.unity = m * 2 ^ (j + 1074) := by
    rw [unity_eq, Nat.cast_mul, Nat.cast_pow, mul_assoc, pow_add]
    rfl
  have hhigh : (m * 2 ^ j : Nat) * (binary64.unity : Rat) ≤ 2 ^ 250 * binary64.unity :=
    mul_le_mul_of_nonneg_right hle binary64.unity_pos.le
  rw [← hvalue] at hhigh
  have hround := round_eq_of_eq one_pos hm hhigh (hvalue.trans hscaled)
  rw [codeOf, hround, hscaled]

/-- The digits of a decimal are held as they are. -/
theorem codeOf_digits {n : Nat} (hpos : 0 < n) (hn : n ≤ 10 ^ 14) :
    codeOf n < binary64.top ∧ (binary64.units (codeOf n) : Rat) = n * binary64.unity := by
  have hsmall : n * 2 ^ 0 ≤ 2 ^ 250 := by omega
  have hunits := units_codeOf (m := n) (j := 0) (by omega) hsmall
  rw [pow_zero, Nat.mul_one] at hunits
  exact ⟨(codeOf_near hpos (by omega)).1, hunits⟩

/-- The units of the double of a power of ten. -/
def powerUnits (k : Nat) : Nat := binary64.units (codeOf (10 ^ k))

theorem powerUnits_near {k : Nat} (hk : k ≤ 60) : codeOf (10 ^ k) < binary64.top ∧
    |(powerUnits k : Rat) - 10 ^ k * binary64.unity| * 2 ^ 53 ≤ 10 ^ k * binary64.unity := by
  have hle : 10 ^ k ≤ 2 ^ 250 := (Nat.pow_le_pow_right (by decide) hk).trans (by decide)
  have hnear := codeOf_near (Nat.pow_pos (by decide)) hle
  push_cast at hnear
  exact hnear

theorem powerUnits_range {k : Nat} (hk : k ≤ 60) :
    (binary64.unity : Rat) ≤ 2 * powerUnits k ∧
      (powerUnits k : Rat) ≤ 2 * 10 ^ 60 * binary64.unity := by
  have hunity := binary64.unity_pos
  have hnear := (powerUnits_near hk).2
  have hlow : (binary64.unity : Rat) ≤ 10 ^ k * binary64.unity :=
    le_mul_of_one_le_left hunity.le (one_le_pow₀ (by norm_num))
  have hhigh : (10 : Rat) ^ k * binary64.unity ≤ 10 ^ 60 * binary64.unity :=
    mul_le_mul_of_nonneg_right (pow_le_pow_right₀ (by norm_num) hk) hunity.le
  obtain ⟨hbelow, habove⟩ := abs_le.1 (le_refl |(powerUnits k : Rat) - 10 ^ k * binary64.unity|)
  constructor
  · linarith only [hbelow, hnear, hlow, hunity]
  · linarith only [habove, hnear, hhigh, hunity]

theorem powerUnits_pos {k : Nat} (hk : k ≤ 60) : (0 : Rat) < powerUnits k := by
  linarith only [(powerUnits_range hk).1, binary64.unity_pos]

theorem powerUnits_eq {k : Nat} (hk : k ≤ 22) : (powerUnits k : Rat) = 10 ^ k * binary64.unity := by
  have hsplit : 10 ^ k = 5 ^ k * 2 ^ k := by rw [← Nat.mul_pow]
  have hfive : 5 ^ k ≤ 2 ^ 53 := (Nat.pow_le_pow_right (by decide) hk).trans (by decide)
  have hten : 5 ^ k * 2 ^ k ≤ 2 ^ 250 := by
    rw [← hsplit]
    exact (Nat.pow_le_pow_right (by decide) hk).trans (by decide)
  have hunits := units_codeOf hfive hten
  rw [← hsplit] at hunits
  push_cast at hunits
  exact hunits

/-! ## The double of a decimal -/

/-- A decimal with few binary digits has a small exponent. -/
theorem natAbs_le_of_eq {n m j : Nat} {e : Int} (hpos : 0 < n) (hn : n ≤ 10 ^ 14) (hm : m ≤ 2 ^ 25)
    (h : (n : Rat) * 10 ^ e * binary64.unity = m * 2 ^ j) : e.natAbs ≤ 22 := by
  by_contra hlarge
  rw [binary64.cast_unity] at h
  generalize binary64.scale = u at h
  have hcoprime : ∀ i, Nat.Coprime (5 ^ 23) (2 ^ i) := fun i =>
    Nat.Coprime.pow _ _ (by decide)
  have hfive : 5 ^ 23 ∣ 10 ^ e.natAbs := by
    have hsplit : 10 ^ e.natAbs = 5 ^ e.natAbs * 2 ^ e.natAbs := by rw [← Nat.mul_pow]
    rw [hsplit]
    exact Nat.dvd_mul_right_of_dvd (Nat.pow_dvd_pow 5 (by omega)) _
  rcases Int.le_total 0 e with he | he
  · have hexponent : e = (e.natAbs : Int) := by omega
    rw [hexponent, zpow_natCast] at h
    have hnat : n * 10 ^ e.natAbs * 2 ^ u = m * 2 ^ j := by exact_mod_cast h
    have hdvd : 5 ^ 23 ∣ m := by
      apply (hcoprime j).dvd_of_dvd_mul_right
      rw [← hnat]
      exact Nat.dvd_mul_right_of_dvd (Nat.dvd_mul_left_of_dvd hfive n) _
    have hmpos : 0 < m := by
      apply Nat.pos_of_ne_zero
      rintro rfl
      simp [hpos.ne'] at hnat
    have hle := Nat.le_of_dvd hmpos hdvd
    omega
  · have hexponent : e = -(e.natAbs : Int) := by omega
    rw [hexponent, zpow_neg, zpow_natCast, ← div_eq_mul_inv, div_mul_eq_mul_div,
      div_eq_iff (by positivity)] at h
    have hnat : n * 2 ^ u = m * 2 ^ j * 10 ^ e.natAbs := by exact_mod_cast h
    have hdvd : 5 ^ 23 ∣ n := by
      apply (hcoprime u).dvd_of_dvd_mul_right
      rw [hnat]
      exact Nat.dvd_mul_left_of_dvd hfive _
    have hle := Nat.le_of_dvd hpos hdvd
    omega

/-- Rounding `num / den` gives a double near `v` units, and `v` itself if it has few binary
digits. -/
structure RoundsTo (num den : Nat) (v : Rat) : Prop where
  finite : binary64.round num den < binary64.top
  near : |(binary64.units (binary64.round num den) : Rat) - v| * 2 ^ 51 ≤ v
  exact : ∀ m j : Nat, m ≤ 2 ^ 25 → v = m * 2 ^ j →
    (binary64.units (binary64.round num den) : Rat) = m * 2 ^ j

/-- A quotient near `v` is rounded to `v`, if it is `v` where this has few binary digits. -/
theorem roundsTo_of_quotient {num den : Nat} {v : Rat} (hden : 0 < den)
    (hleast : (binary64.unity : Rat) ≤ num / den * 2 ^ 250)
    (hmost : (num : Rat) / den ≤ 2 ^ 250 * binary64.unity)
    (hnear : ∀ y : Rat, |y - num / den| * 2 ^ 53 ≤ num / den → |y - v| * 2 ^ 51 ≤ v)
    (hexact : ∀ m j : Nat, m ≤ 2 ^ 25 → v = m * 2 ^ j → (num : Rat) / den = v) :
    RoundsTo num den v := by
  obtain ⟨hfinite, herror⟩ := abs_round_sub_le hden hleast hmost
  refine ⟨hfinite, hnear _ herror, fun m j hm h => ?_⟩
  exact round_eq_of_eq hden (by omega) hmost ((hexact m j hm h).trans h)

section Values

variable {F : Format}

theorem mul_real {s t : Bool} {a b : Nat} {ha : a ≤ F.top} {hb : b ≤ F.top} (hfinite : a < F.top)
    (hfinite' : b < F.top) :
    (Binary.real s a ha).mul (.real t b hb) =
      .ofUnits (s != t) (F.units a * F.units b) F.unity := by
  simp only [Binary.mul, if_neg hfinite.ne, if_neg hfinite'.ne]

theorem div_real {s t : Bool} {a b : Nat} {ha : a ≤ F.top} {hb : b ≤ F.top} (hfinite : a < F.top)
    (hfinite' : b < F.top) (hne : b ≠ 0) :
    (Binary.real s a ha).div (.real t b hb) =
      .ofUnits (s != t) (F.units a * F.unity) (F.units b) := by
  simp only [Binary.div, if_neg hfinite.ne, if_neg hfinite'.ne, if_neg hne]

theorem signed_ofUnits (negative : Bool) (num den : Nat) :
    (if negative = true then (Binary.ofUnits false num den).negate else .ofUnits false num den :
      Binary F) = .ofUnits negative num den := by
  cases negative <;> rfl

theorem isFinite_ofUnits {s : Bool} {num den : Nat} (h : F.round num den < F.top) :
    (Binary.ofUnits s num den : Binary F).isFinite = true := decide_eq_true h

end Values

section Doubles

variable {n : Nat} {e : Int}

theorem roundsTo_mul (hpos : 0 < n) (hn : n ≤ 10 ^ 14) (hsmall : e.natAbs ≤ 60) (he : 0 ≤ e) :
    RoundsTo (binary64.units (codeOf n) * powerUnits e.natAbs) binary64.unity
      (n * 10 ^ e * binary64.unity) := by
  have hunity := binary64.unity_pos
  have hvalue : (n : Rat) * 10 ^ e * binary64.unity = n * (10 ^ e.natAbs * binary64.unity) := by
    have hexponent : e = (e.natAbs : Int) := by omega
    rw [← zpow_natCast, ← hexponent, mul_assoc]
  have hquotient : ((binary64.units (codeOf n) * powerUnits e.natAbs : Nat) : Rat) /
      binary64.unity = n * powerUnits e.natAbs := by
    rw [Nat.cast_mul, (codeOf_digits hpos hn).2]
    field_simp
  have hone : (1 : Rat) ≤ n := by exact_mod_cast hpos
  obtain ⟨hlow, hhigh⟩ := powerUnits_range hsmall
  obtain ⟨hleast, hmost⟩ := range_mul hone (by exact_mod_cast hn) hunity hlow hhigh
  rw [← hquotient] at hleast hmost
  have hden : 0 < binary64.unity := by exact_mod_cast hunity
  refine roundsTo_of_quotient hden hleast hmost (fun y hy => ?_) fun m j hm h => ?_
  · rw [hquotient] at hy
    rw [hvalue]
    exact abs_mul_sub_le (Nat.cast_nonneg n) (mul_nonneg (by positivity) hunity.le)
      (powerUnits_near hsmall).2 hy
  · rw [hquotient, powerUnits_eq (natAbs_le_of_eq hpos hn hm h), ← hvalue]

theorem roundsTo_div (hpos : 0 < n) (hn : n ≤ 10 ^ 14) (hsmall : e.natAbs ≤ 60) (he : e < 0) :
    RoundsTo (binary64.units (codeOf n) * binary64.unity) (powerUnits e.natAbs)
      (n * 10 ^ e * binary64.unity) := by
  have hunity := binary64.unity_pos
  have hvalue : (n : Rat) * 10 ^ e * binary64.unity =
      n * binary64.unity * binary64.unity / (10 ^ e.natAbs * binary64.unity) := by
    have hexponent : e = -(e.natAbs : Int) := by omega
    rw [mul_div_mul_right _ _ hunity.ne', ← zpow_natCast, mul_div_right_comm, div_eq_mul_inv,
      ← zpow_neg, ← hexponent]
  have hquotient : ((binary64.units (codeOf n) * binary64.unity : Nat) : Rat) /
      powerUnits e.natAbs = n * binary64.unity * binary64.unity / powerUnits e.natAbs := by
    rw [Nat.cast_mul, (codeOf_digits hpos hn).2]
  have hone : (1 : Rat) ≤ n := by exact_mod_cast hpos
  obtain ⟨hlow, hhigh⟩ := powerUnits_range hsmall
  obtain ⟨hleast, hmost⟩ := range_div hone (by exact_mod_cast hn) hunity hlow hhigh
  rw [← hquotient] at hleast hmost
  have hden : 0 < powerUnits e.natAbs := by exact_mod_cast powerUnits_pos hsmall
  refine roundsTo_of_quotient hden hleast hmost (fun y hy => ?_) fun m j hm h => ?_
  · rw [hquotient] at hy
    rw [hvalue]
    exact abs_div_sub_le (mul_nonneg (mul_nonneg (Nat.cast_nonneg n) hunity.le) hunity.le)
      (mul_pos (by positivity) hunity) (powerUnits_near hsmall).2 hy
  · rw [hquotient, powerUnits_eq (natAbs_le_of_eq hpos hn hm h), ← hvalue]

theorem doubleOf_of_nonneg (he : 0 ≤ e) (hsmall : e.natAbs ≤ 308) (hn : codeOf n < binary64.top)
    (hten : codeOf (10 ^ e.natAbs) < binary64.top)
    (hfinite : binary64.round (binary64.units (codeOf n) * binary64.units (codeOf (10 ^ e.natAbs)))
      binary64.unity < binary64.top) (negative : Bool) :
    doubleOf negative n e = .ok (.double (.ofUnits negative
      (binary64.units (codeOf n) * binary64.units (codeOf (10 ^ e.natAbs))) binary64.unity)) := by
  have hpower : Nat.pow 10 e.toNat = 10 ^ e.natAbs := by
    rw [Nat.pow_eq]
    congr 1
    omega
  unfold doubleOf shiftDecimal
  simp only [if_pos hsmall, if_pos he, hpower, ofNat_eq, mul_real hn hten, bne_self_eq_false,
    isFinite_ofUnits hfinite, if_true, signed_ofUnits]

theorem doubleOf_of_neg (he : e < 0) (hsmall : e.natAbs ≤ 308) (hn : codeOf n < binary64.top)
    (hten : codeOf (10 ^ e.natAbs) < binary64.top) (hne : codeOf (10 ^ e.natAbs) ≠ 0)
    (negative : Bool) :
    doubleOf negative n e = .ok (.double (.ofUnits negative
      (binary64.units (codeOf n) * binary64.unity) (binary64.units (codeOf (10 ^ e.natAbs))))) := by
  unfold doubleOf shiftDecimal
  simp only [if_pos hsmall, if_neg (Int.not_le.2 he), Nat.pow_eq, ofNat_eq, div_real hn hten hne,
    bne_self_eq_false, signed_ofUnits]

/-- A decimal with few digits is read as a double near it, and as itself if it has few binary
digits. -/
theorem exists_doubleOf (hpos : 0 < n) (hn : n ≤ 10 ^ 14) (hsmall : e.natAbs ≤ 60) :
    ∃ num den, (∀ negative, doubleOf negative n e = .ok (.double (.ofUnits negative num den))) ∧
      RoundsTo num den (n * 10 ^ e * binary64.unity) := by
  obtain ⟨hdigits, -⟩ := codeOf_digits hpos hn
  obtain ⟨hpower, -⟩ := powerUnits_near hsmall
  have hwide : e.natAbs ≤ 308 := hsmall.trans (by decide)
  rcases Int.lt_or_le e 0 with hneg | hnonneg
  · have hne : codeOf (10 ^ e.natAbs) ≠ 0 := by
      intro hzero
      have hunits := powerUnits_pos hsmall
      rw [powerUnits, hzero, Format.units_zero] at hunits
      exact lt_irrefl _ hunits
    exact ⟨_, _, doubleOf_of_neg hneg hwide hdigits hpower hne, roundsTo_div hpos hn hsmall hneg⟩
  · have hrounds := roundsTo_mul hpos hn hsmall hnonneg
    exact ⟨_, _, doubleOf_of_nonneg hnonneg hwide hdigits hpower hrounds.finite, hrounds⟩

end Doubles

end BargeIn.Json
