import Mathlib
import BargeIn.Json.Codec
import BargeIn.Proofs.Json.DoubleOf
import BargeIn.Proofs.Number.HalfWay

/-!
# Singles are read back from their text

    readsBack_of_isFinite     every finite single is the one that is read from its text

The text is that of the shortest decimal, which is rounded to the single; but a text is read as a
double first, with two roundings of its own, and the double is then made a single.  The double is so
close to the decimal that this gives another single only where the decimal lies near the point half
way between two singles.  If it lies at that point, the double is the decimal itself; else the two
singles are among a few, for each of which reading back is evaluated.
-/

namespace BargeIn.Json

open BargeIn.Number

/-- The text of a single is a number by itself, of which it is the single. -/
def ReadsBack (x : Binary binary32) : Prop :=
  ∃ n, readNumber (renderNumber (.single x)) = .ok (n, []) ∧ n.toSingle = x

/-! ## Reading back, evaluated -/

/-- Is the single read back from its text? -/
def readsBack? (x : Binary binary32) : Bool :=
  match readNumber (renderNumber (.single x)) with
  | .ok (n, []) => n.toSingle == x
  | _ => false

theorem readsBack?_iff {x : Binary binary32} : readsBack? x = true ↔ ReadsBack x := by
  unfold readsBack? ReadsBack
  split
  · next n h => simp [h]
  · next h =>
    simp only [Bool.false_eq_true, false_iff]
    rintro ⟨n, hn, -⟩
    exact h n hn

instance (x : Binary binary32) : Decidable (ReadsBack x) := decidable_of_iff _ readsBack?_iff

/-- Both values with the magnitude of a code are read back. -/
def BothReadBack (code : Nat) : Prop :=
  ∀ h : code < binary32.top, ReadsBack (.real false code h.le) ∧ ReadsBack (.real true code h.le)

instance (code : Nat) : Decidable (BothReadBack code) := by
  unfold BothReadBack
  infer_instance

/-- The few magnitudes with a decimal near the point half way to the next are read back, and so is
the next. -/
theorem bothReadBack_of_misses : ∀ q < 254, ∀ m ∈ missesOf q,
    BothReadBack (q * 2 ^ 23 + m.toNat / 2) ∧ BothReadBack (q * 2 ^ 23 + m.toNat / 2 + 1) := by
  decide +kernel

theorem bothReadBack_of_miss {code q m : Nat} (hq : q < 254) (hcode : code = q * 2 ^ 23 + m)
    (hmiss : ((2 * m + 1 : Nat) : Int) ∈ missesOf q) :
    BothReadBack code ∧ BothReadBack (code + 1) := by
  have hfound := bothReadBack_of_misses q hq _ hmiss
  have hdiv : (2 * m + 1) / 2 = m := by omega
  rwa [Int.toNat_natCast, hdiv, ← hcode] at hfound

/-! ## The single of a close double -/

/-- Where a decimal has a nearest magnitude that is not zero, it is neither very small nor very
great. -/
theorem value_bounds {code : Nat} (hcode : code ≠ 0) (htop : code < binary32.top) {d : Decimal}
    (h : binary32.Nearest code (d.value * binary32.unity)) :
    (10 : Rat) ^ (-46 : Int) ≤ d.value ∧ d.value < 10 ^ (39 : Int) := by
  obtain ⟨hlow, hhigh, -⟩ := h
  rw [twice_eq] at hlow hhigh
  have hbefore : (0 : Rat) ≤ binary32.units (code - 1) := Nat.cast_nonneg _
  have hone : (1 : Rat) ≤ binary32.units code := by
    exact_mod_cast binary32.units_pos hcode
  have hfinite : (binary32.units code : Rat) ≤ 2 ^ 127 * 2 ^ 150 := by
    rw [← units_top32]
    exact Format.units_le_units htop.le
  have hnext : (binary32.units (code + 1) : Rat) ≤ 2 ^ 127 * 2 ^ 150 := by
    rw [← units_top32]
    exact Format.units_le_units htop
  constructor
  · have hsmall : (10 : Rat) ^ (-46 : Int) * 2 ^ 150 ≤ 1 := by norm_num
    have hscaled : (10 : Rat) ^ (-46 : Int) * 2 ^ 150 ≤ d.value * 2 ^ 150 := by linarith
    exact le_of_mul_le_mul_right hscaled (by positivity)
  · have hscaled : d.value * 2 ^ 150 ≤ 2 ^ 128 * 2 ^ 150 := by linarith
    calc d.value ≤ 2 ^ 128 := le_of_mul_le_mul_right hscaled (by positivity)
      _ < 10 ^ (39 : Int) := by norm_num

theorem natAbs_le {n : Nat} {e : Int} (hpos : 0 < n) (hn : n ≤ 10 ^ 14)
    (hlow : (10 : Rat) ^ (-46 : Int) ≤ n * 10 ^ e) (hhigh : (n : Rat) * 10 ^ e < 10 ^ (39 : Int)) :
    e.natAbs ≤ 60 := by
  have hone : (1 : Rat) ≤ n := by exact_mod_cast hpos
  have hle : (n : Rat) ≤ 10 ^ (14 : Int) := by exact_mod_cast hn
  have hten : (0 : Rat) < 10 ^ e := by positivity
  have hbelow : (10 : Rat) ^ (-46 : Int) ≤ 10 ^ (14 + e) := by
    rw [zpow_add₀ (by norm_num)]
    exact hlow.trans (mul_le_mul_of_nonneg_right hle hten.le)
  have habove : (10 : Rat) ^ e < 10 ^ (39 : Int) :=
    (le_mul_of_one_le_left hten.le hone).trans_lt hhigh
  have hlower := (zpow_le_zpow_iff_right₀ (by norm_num : (1 : Rat) < 10)).1 hbelow
  have hupper := (zpow_lt_zpow_iff_right₀ (by norm_num : (1 : Rat) < 10)).1 habove
  omega

theorem unity64_eq : (binary64.unity : Rat) = 2 ^ 924 * 2 ^ 150 := by
  rw [unity_eq, ← pow_add]

/-- Twice a double, in units of the single. -/
theorem twice_double (a : Nat) :
    2 * (((a * binary32.unity : Nat) : Rat) / (binary64.unity : Nat)) = a / 2 ^ 924 := by
  rw [Nat.cast_mul, unity32_eq, unity64_eq]
  have hpos : (0 : Rat) < 2 ^ 924 := by positivity
  generalize (2 : Rat) ^ 924 = w at *
  rw [mul_div_assoc', div_eq_div_iff (by positivity) hpos.ne']
  ring

theorem close_of_close {v : Rat} {a : Nat}
    (h : |(a : Rat) - v * binary64.unity| * 2 ^ 51 ≤ v * binary64.unity) :
    |(a : Rat) / 2 ^ 924 - v * 2 ^ 150| * 2 ^ 51 ≤ v * 2 ^ 150 := by
  rw [unity64_eq] at h
  have hpos : (0 : Rat) < 2 ^ 924 := by positivity
  generalize (2 : Rat) ^ 924 = w at *
  have hscaled : (a : Rat) - v * (w * 2 ^ 150) = (a / w - v * 2 ^ 150) * w := by
    rw [sub_mul, div_mul_cancel₀ _ hpos.ne']
    ring
  rw [hscaled, abs_mul, abs_of_pos hpos] at h
  apply le_of_mul_le_mul_right _ hpos
  linarith

/-- A double that is held as it is stays so. -/
theorem eq_of_tie {v : Rat} {a code : Nat} (hcode : code < binary32.top)
    (htie : v * 2 ^ 150 = halfWay code)
    (h : ∀ m j : Nat, m ≤ 2 ^ 25 → v * binary64.unity = m * 2 ^ j → (a : Rat) = m * 2 ^ j) :
    (a : Rat) / 2 ^ 924 = v * 2 ^ 150 := by
  obtain ⟨q, m, -, -, hm, -, hunits, hunits'⟩ := exists_steps hcode
  have hhalf : v * 2 ^ 150 = (2 * m + 1 : Nat) * 2 ^ q := by
    rw [htie, halfWay, hunits, hunits']
    push_cast
    ring
  have hvalue : v * binary64.unity = (2 * m + 1 : Nat) * 2 ^ (q + 924) := by
    rw [unity64_eq, pow_add, ← mul_assoc, ← mul_assoc, ← hhalf, mul_right_comm]
  rw [h _ _ (by omega) hvalue, hhalf, pow_add, ← mul_assoc, mul_div_assoc, div_self (by positivity),
    mul_one]

theorem toSingle_ofUnits {negative : Bool} {num den code : Nat} (hcode : code ≤ binary32.top)
    (hfinite : binary64.round num den < binary64.top)
    (hnearest : binary32.Nearest code
      ((binary64.units (binary64.round num den) * binary32.unity : Nat) / (binary64.unity : Nat))) :
    (Numeral.double (.ofUnits negative num den)).toSingle = .real negative code hcode := by
  have hunity : 0 < binary64.unity := by exact_mod_cast binary64.unity_pos
  have hround := Format.round_eq_of_nearest (by decide) hunity hcode hnearest
  simp only [Numeral.toSingle, Binary.convert, Binary.ofUnits, if_neg hfinite.ne, hround]

/-! ## The text of a single -/

/-- The text of a single is read as the double of its shortest decimal. -/
theorem exists_readNumber {code : Nat} (hcode : code ≠ 0) (htop : code < binary32.top) :
    ∃ num den, RoundsTo num den ((binary32.shortestDecimal code).value * binary64.unity) ∧
      ∀ negative, readNumber (renderNumber (.single (.real negative code htop.le))) =
        .ok (.double (.ofUnits negative num den), []) := by
  obtain ⟨hnearest, -, -, -, hdigits⟩ :=
    Format.shortestDecimal_spec (F := binary32) hcode (t := 8) (by decide) (by decide)
  have hne := Format.shortestDecimal_digits_ne_zero (F := binary32) hcode
  obtain ⟨n, e, ⟨hvalue, hread⟩, hpos, hn⟩ :=
    readsAs_decimal (l := singleLayout) (by decide) hne hdigits
  obtain ⟨hlow, hhigh⟩ := value_bounds hcode htop hnearest
  rw [← hvalue] at hlow hhigh
  obtain ⟨num, den, hdouble, hrounds⟩ :=
    exists_doubleOf hpos hn (natAbs_le hpos hn hlow hhigh)
  rw [hvalue] at hrounds
  refine ⟨num, den, hrounds, fun negative => ?_⟩
  have hfinite : (Binary.real negative code htop.le : Binary binary32).isFinite = true :=
    decide_eq_true htop
  have htext : renderNumber (.single (.real negative code htop.le)) =
      (if negative = true then ['-'] else []) ++
        singleLayout.decimal (binary32.shortestDecimal code) := by
    simp only [renderNumber, hfinite, if_true, Layout.render, if_neg hcode]
  have hsign := (isMagnitude_decimal singleLayout hne).readNumber_sign negative []
  rw [List.append_nil, List.append_nil] at hsign
  rw [htext, hsign, hread, hdouble]
  rfl

/-- The double of the shortest decimal of a single is nearest to the single, if there is no near
miss on either side of it. -/
theorem nearest_double {code num den : Nat} (hcode : code ≠ 0) (htop : code < binary32.top)
    (hrounds : RoundsTo num den ((binary32.shortestDecimal code).value * binary64.unity))
    (hmiss : ∀ c, c + 1 = code ∨ c = code → ∀ q < 254, ∀ m : Nat, c = q * 2 ^ 23 + m →
      ((2 * m + 1 : Nat) : Int) ∉ missesOf q) :
    binary32.Nearest code ((binary64.units (binary64.round num den) * binary32.unity : Nat) /
      (binary64.unity : Nat)) := by
  obtain ⟨hnearest, hnext, -, -, -⟩ :=
    Format.shortestDecimal_spec (F := binary32) hcode (t := 8) (by decide) (by decide)
  apply nearest_of_close hcode hnearest
  · rw [twice_eq, twice_double]
    exact close_of_close hrounds.near
  · intro c hc
    have hctop : c < binary32.top := by omega
    rw [twice_eq]
    rcases halfWay_cases hctop ⟨code, by omega, hnext⟩ with htie | hfar | ⟨q, hq, m, hm, hfound⟩
    · refine .inl ⟨htie, ?_⟩
      rw [twice_double]
      exact eq_of_tie hctop htie hrounds.exact
    · exact .inr hfar
    · exact absurd hfound (hmiss c hc q hq m hm)

/-- The single with a magnitude that is not zero is read back, with either sign. -/
theorem bothReadBack_of_ne_zero {code : Nat} (hcode : code ≠ 0) : BothReadBack code := by
  by_cases hlooked : ∃ c, (c + 1 = code ∨ c = code) ∧ BothReadBack c ∧ BothReadBack (c + 1)
  · obtain ⟨c, rfl | rfl, hboth, hboth'⟩ := hlooked
    · exact hboth'
    · exact hboth
  intro htop
  obtain ⟨num, den, hrounds, hread⟩ := exists_readNumber hcode htop
  have hnearest := nearest_double hcode htop hrounds fun c hc q hq m hm hfound =>
    hlooked ⟨c, hc, bothReadBack_of_miss hq hm hfound⟩
  have hback : ∀ negative, ReadsBack (.real negative code htop.le) := fun negative =>
    ⟨_, hread negative, toSingle_ofUnits htop.le hrounds.finite hnearest⟩
  exact ⟨hback false, hback true⟩

/-- Every finite single is read back from its text. -/
theorem readsBack_of_isFinite {x : Binary binary32} (hx : x.isFinite = true) : ReadsBack x := by
  cases x with
  | nan => cases hx
  | real negative code hcode =>
    have htop : code < binary32.top := of_decide_eq_true hx
    have hboth : BothReadBack code := by
      by_cases hzero : code = 0
      · subst hzero
        decide +kernel
      · exact bothReadBack_of_ne_zero hzero
    cases negative with
    | false => exact (hboth htop).1
    | true => exact (hboth htop).2

end BargeIn.Json
