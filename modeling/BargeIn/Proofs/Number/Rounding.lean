import Mathlib
import BargeIn.Proofs.Number.Order

/-!
# Rounding to the nearest magnitude

    Nearest code x      the magnitude of `code` is nearest to `x` units

Half way between two magnitudes the even code counts as the nearer one, so there is one code at most
(`Nearest.unique`), and rounding gives it (`round_eq_of_nearest`).  A quotient that is not less than
the first magnitude with a leading one is changed by at most a part in twice the binade
(`abs_units_round_sub_le`).
-/

namespace BargeIn.Number

/-- A quotient is rounded by a half at most, and by a half only to an even number. -/
theorem roundEven_near (num : Nat) {den : Nat} (hden : 0 < den) :
    |(roundEven num den : Rat) - num / den| < 1 / 2 ∨
      |(roundEven num den : Rat) - num / den| = 1 / 2 ∧ roundEven num den % 2 = 0 := by
  have hpos : (0 : Rat) < den := by exact_mod_cast hden
  have hquotient : (num : Rat) / den = (num / den : Nat) + (num % den : Nat) / den := by
    rw [eq_comm, ← sub_eq_zero]
    have hnum : (num : Rat) = den * (num / den : Nat) + (num % den : Nat) := by
      exact_mod_cast (Nat.div_add_mod num den).symm
    rw [hnum]
    field_simp
    ring
  have hrest : (0 : Rat) ≤ (num % den : Nat) / den := by positivity
  unfold roundEven
  simp only
  rw [hquotient]
  split
  · next hlt =>
    have hhalf : ((num % den : Nat) : Rat) / den < 1 / 2 := by
      rw [div_lt_div_iff₀ hpos two_pos]
      exact_mod_cast (by omega : num % den * 2 < 1 * den)
    left
    rw [abs_lt]
    constructor <;> linarith
  split
  · next hgt =>
    have hhalf : 1 / 2 < ((num % den : Nat) : Rat) / den := by
      rw [div_lt_div_iff₀ two_pos hpos]
      exact_mod_cast (by omega : 1 * den < num % den * 2)
    have hone : ((num % den : Nat) : Rat) / den < 1 := by
      rw [div_lt_one hpos]
      exact_mod_cast Nat.mod_lt num hden
    left
    rw [abs_lt]
    push_cast
    constructor <;> linarith
  · have hhalf : ((num % den : Nat) : Rat) / den = 1 / 2 := by
      rw [div_eq_div_iff hpos.ne' two_ne_zero]
      exact_mod_cast (by omega : num % den * 2 = 1 * den)
    right
    rw [hhalf]
    rcases Nat.mod_two_eq_zero_or_one (num / den) with heven | hodd
    · rw [heven, Nat.add_zero]
      refine ⟨?_, heven⟩
      rw [sub_add_cancel_left, abs_neg, abs_of_pos one_half_pos]
    · rw [hodd]
      refine ⟨?_, by omega⟩
      push_cast
      rw [add_sub_add_left_eq_sub, abs_of_pos] <;> norm_num

namespace Format

variable {F : Format}

theorem cast_unity (F : Format) : (F.unity : Rat) = 2 ^ F.scale := Nat.cast_pow 2 F.scale

theorem cast_binade (F : Format) : (F.binade : Rat) = 2 ^ F.precision := Nat.cast_pow 2 F.precision

theorem unity_pos (F : Format) : (0 : Rat) < F.unity := by
  rw [F.cast_unity]
  positivity

/-! ## The nearest magnitude -/

/-- The magnitude of `code` is nearest to `x` units, by an even code also half way to the next. -/
structure Nearest (F : Format) (code : Nat) (x : Rat) : Prop where
  low : (F.units (code - 1) + F.units code : Rat) ≤ 2 * x
  high : 2 * x ≤ F.units code + F.units (code + 1)
  odd : code % 2 = 1 →
    (F.units (code - 1) + F.units code : Rat) < 2 * x ∧ 2 * x < F.units code + F.units (code + 1)

theorem units_le_units {a b : Nat} (h : a ≤ b) : (F.units a : Rat) ≤ F.units b := by
  exact_mod_cast F.strictMono_units.monotone h

theorem units_lt_units {a b : Nat} (h : a < b) : (F.units a : Rat) < F.units b := by
  exact_mod_cast F.strictMono_units h

theorem nearest_units (code : Nat) : F.Nearest code (F.units code) := by
  have hnext : (F.units code : Rat) < F.units (code + 1) := units_lt_units (Nat.lt_succ_self code)
  refine ⟨?_, by linarith, fun hodd => ⟨?_, by linarith⟩⟩
  · have hbefore : (F.units (code - 1) : Rat) ≤ F.units code := units_le_units (Nat.sub_le code 1)
    linarith
  · have hbefore : (F.units (code - 1) : Rat) < F.units code := units_lt_units (by omega)
    linarith

theorem Nearest.le {a b : Nat} {x y : Rat} (ha : F.Nearest a x) (hb : F.Nearest b y)
    (hyx : y ≤ x) : b ≤ a := by
  by_contra hlt
  have hbefore : (F.units (a + 1) : Rat) ≤ F.units b := units_le_units (by omega)
  rcases Nat.lt_or_ge (a + 1) b with hfar | hnear
  · have hbetween : (F.units a : Rat) < F.units (b - 1) := units_lt_units (by omega)
    linarith [ha.high, hb.low]
  · -- neighbours with both `x` and `y` half way between them, of which one is odd
    obtain rfl : b = a + 1 := by omega
    have hlow := hb.low
    rw [Nat.add_sub_cancel] at hlow
    rcases Nat.mod_two_eq_zero_or_one a with heven | hodd
    · have hstrict := (hb.odd (by omega)).1
      rw [Nat.add_sub_cancel] at hstrict
      linarith [ha.high]
    · linarith [(ha.odd hodd).2]

theorem Nearest.unique {a b : Nat} {x : Rat} (ha : F.Nearest a x) (hb : F.Nearest b x) : a = b :=
  Nat.le_antisymm (hb.le ha le_rfl) (ha.le hb le_rfl)

/-- What has few enough digits is a magnitude. -/
theorem exists_units_eq {m : Nat} (hm : m ≤ 2 * F.binade) (j : Nat) :
    ∃ code, F.units code = m * 2 ^ j := by
  induction j generalizing m with
  | zero => exact ⟨0 * F.binade + m, F.units_scaled hm (.inl rfl)⟩
  | succ j ih =>
    rcases Nat.lt_or_ge m F.binade with hlt | hge
    · obtain ⟨code, hcode⟩ := ih (m := m * 2) (by omega)
      exact ⟨code, by rw [hcode, pow_succ']; ring⟩
    · exact ⟨(j + 1) * F.binade + m, F.units_scaled hm (.inr hge)⟩

/-! ## What rounding gives -/

/-- `x` lies in the binade with steps of `2 ^ s` units, and `r` steps are nearest to it. -/
structure Stepped (F : Format) (x : Rat) (s r : Nat) : Prop where
  nonneg : 0 ≤ x
  low : s = 0 ∨ (F.binade : Rat) * 2 ^ s ≤ x
  high : x < 2 * F.binade * 2 ^ s
  near : |(r : Rat) - x / 2 ^ s| < 1 / 2 ∨ |(r : Rat) - x / 2 ^ s| = 1 / 2 ∧ r % 2 = 0

theorem exists_stepped (F : Format) (num : Nat) {den : Nat} (hden : 0 < den) :
    ∃ s r, F.round num den = min F.top (s * F.binade + r) ∧ F.Stepped (num / den) s r := by
  have hpos : (0 : Rat) < den := by exact_mod_cast hden
  have hbinade : F.binade = 2 ^ F.precision := rfl
  generalize hs : (num / den).log2 - F.precision = s
  have hnear := roundEven_near num (Nat.mul_pos hden (Nat.two_pow_pos s))
  push_cast at hnear
  rw [← div_div] at hnear
  refine ⟨s, roundEven num (den * 2 ^ s), ?_, by positivity, ?_, ?_, hnear⟩
  · unfold round
    simp only [hs]
    rfl
  · rcases Nat.eq_zero_or_pos s with hzero | hone
    · exact .inl hzero
    · right
      have hne : num / den ≠ 0 := by
        intro hzero
        rw [hzero, Nat.log2_zero] at hs
        omega
      have hlog : F.binade * 2 ^ s ≤ num / den := by
        rw [hbinade, ← pow_add]
        have hexponent : F.precision + s = (num / den).log2 := by omega
        rw [hexponent]
        exact Nat.log2_self_le hne
      rw [le_div_iff₀ hpos]
      exact_mod_cast (Nat.le_div_iff_mul_le hden).1 hlog
  · have hlog : num / den < 2 * F.binade * 2 ^ s := by
      calc num / den < 2 ^ ((num / den).log2 + 1) := Nat.lt_log2_self
        _ ≤ 2 ^ (1 + F.precision + s) := Nat.pow_le_pow_right two_pos (by omega)
        _ = 2 * F.binade * 2 ^ s := by rw [hbinade, pow_add, pow_add, pow_one]
    rw [div_lt_iff₀ hpos]
    exact_mod_cast (Nat.div_lt_iff_lt_mul hden).1 hlog

namespace Stepped

variable {x : Rat} {s r : Nat} (h : F.Stepped x s r)
include h

theorem two_mul_sub_le : |2 * (r * 2 ^ s) - 2 * x| ≤ 2 ^ s := by
  have htwo : (0 : Rat) < 2 ^ s := by positivity
  have hclose : |(r : Rat) - x / 2 ^ s| ≤ 1 / 2 := h.near.elim le_of_lt fun h => h.1.le
  have hscaled : 2 * ((r : Rat) * 2 ^ s) - 2 * x = 2 * 2 ^ s * (r - x / 2 ^ s) := by
    field_simp
  rw [hscaled, abs_mul, abs_of_pos (by positivity)]
  calc 2 * 2 ^ s * |(r : Rat) - x / 2 ^ s| ≤ 2 * 2 ^ s * (1 / 2) := by gcongr
    _ = 2 ^ s := by ring

theorem two_mul_sub_lt (hodd : r % 2 = 1) : |2 * (r * 2 ^ s) - 2 * x| < 2 ^ s := by
  have hclose : |(r : Rat) - x / 2 ^ s| < 1 / 2 := h.near.resolve_right fun h => by omega
  have hscaled : 2 * ((r : Rat) * 2 ^ s) - 2 * x = 2 * 2 ^ s * (r - x / 2 ^ s) := by
    field_simp
  rw [hscaled, abs_mul, abs_of_pos (by positivity)]
  calc 2 * 2 ^ s * |(r : Rat) - x / 2 ^ s| < 2 * 2 ^ s * (1 / 2) := by gcongr
    _ = 2 ^ s := by ring

theorem le : r ≤ 2 * F.binade := by
  have htwo : (0 : Rat) < 2 ^ s := by positivity
  have hbound : 2 * ((r : Rat) * 2 ^ s) < (4 * F.binade + 1) * 2 ^ s := by
    linarith [(abs_le.1 h.two_mul_sub_le).2, h.high]
  have hsteps : 2 * (r : Rat) < 4 * F.binade + 1 := by
    rw [← mul_assoc] at hbound
    exact lt_of_mul_lt_mul_right hbound htwo.le
  have hnat : 2 * r < 4 * F.binade + 1 := by exact_mod_cast hsteps
  omega

theorem leading : s = 0 ∨ F.binade ≤ r := by
  refine h.low.imp_right fun hge => ?_
  have htwo : (0 : Rat) < 2 ^ s := by positivity
  have hbound : (2 * F.binade - 1) * 2 ^ s ≤ 2 * ((r : Rat) * 2 ^ s) := by
    linarith [(abs_le.1 h.two_mul_sub_le).1]
  have hsteps : (2 * F.binade - 1 : Rat) ≤ 2 * r := by
    rw [← mul_assoc] at hbound
    exact le_of_mul_le_mul_right hbound htwo
  have hnat : (2 * F.binade : Rat) ≤ 2 * r + 1 := by linarith
  have hnat : 2 * F.binade ≤ 2 * r + 1 := by exact_mod_cast hnat
  omega

theorem units_eq : (F.units (s * F.binade + r) : Rat) = r * 2 ^ s := by
  rw [F.units_scaled h.le h.leading]
  push_cast
  rfl

/-- The next magnitude is a step higher, if `r` does not lie at the upper end of the binade. -/
theorem step_le_next : (r + 1 : Rat) * 2 ^ s ≤ F.units (s * F.binade + r + 1) ∨
    r % 2 = 0 ∧ x ≤ r * 2 ^ s := by
  rcases Nat.lt_or_ge r (2 * F.binade) with hlt | hge
  · left
    rw [Nat.add_assoc, F.units_scaled hlt (h.leading.imp_right Nat.le_succ_of_le)]
    push_cast
    exact le_rfl
  · right
    obtain rfl : r = 2 * F.binade := Nat.le_antisymm h.le hge
    refine ⟨Nat.mul_mod_right 2 _, ?_⟩
    push_cast
    exact h.high.le

/-- The magnitude before is a step lower, if `r` does not lie at the lower end of the binade. -/
theorem last_le_step (heven : 2 ∣ F.binade) :
    (F.units (s * F.binade + r - 1) : Rat) ≤ (r - 1) * 2 ^ s ∨ r % 2 = 0 ∧ (r * 2 ^ s : Rat) ≤ x := by
  by_cases hinner : 1 ≤ r ∧ (s = 0 ∨ F.binade ≤ r - 1)
  · left
    have hle := h.le
    rw [Nat.add_sub_assoc hinner.1, F.units_scaled (by omega) hinner.2]
    push_cast [hinner.1]
    exact le_rfl
  · right
    by_cases hs : s = 0
    · obtain rfl : r = 0 := by omega
      simpa using h.nonneg
    · have hleading := h.leading
      obtain rfl : r = F.binade := by omega
      exact ⟨Nat.mod_eq_zero_of_dvd heven, h.low.resolve_left hs⟩

/-- The code is that of the nearest magnitude: where a neighbour is nearer than a step, at either
end of the binade, `r` is even and `x` lies on the other side. -/
theorem nearest (heven : 2 ∣ F.binade) : F.Nearest (s * F.binade + r) x := by
  have hparity : (s * F.binade + r) % 2 = r % 2 := by
    obtain ⟨half, hhalf⟩ := heven
    rw [hhalf, Nat.mul_left_comm, Nat.mul_add_mod]
  have habove := h.step_le_next
  have hbelow := h.last_le_step heven
  have hnext : (F.units (s * F.binade + r) : Rat) ≤ F.units (s * F.binade + r + 1) :=
    units_le_units (Nat.le_succ _)
  have hlast : (F.units (s * F.binade + r - 1) : Rat) ≤ F.units (s * F.binade + r) :=
    units_le_units (Nat.sub_le _ 1)
  have hclose := abs_le.1 h.two_mul_sub_le
  rw [h.units_eq] at hnext hlast
  refine ⟨?_, ?_, fun hodd => ?_⟩ <;> rw [h.units_eq]
  · rcases hbelow with hstep | ⟨-, hge⟩ <;> linarith
  · rcases habove with hstep | ⟨-, hle⟩ <;> linarith
  · rw [hparity] at hodd
    have hstrict := abs_lt.1 (h.two_mul_sub_lt hodd)
    have hne : r % 2 ≠ 0 := by omega
    have habove := habove.resolve_right fun heven => hne heven.1
    have hbelow := hbelow.resolve_right fun heven => hne heven.1
    constructor <;> linarith

/-- From the first magnitude with a leading one the error is small beside `x`. -/
theorem abs_sub_le (hx : (F.binade : Rat) ≤ x) :
    |(F.units (s * F.binade + r) : Rat) - x| * (2 * F.binade) ≤ x := by
  have hbinade : (0 : Rat) < F.binade := by exact_mod_cast F.binade_pos
  have hlow : (F.binade : Rat) * 2 ^ s ≤ x := by
    rcases h.low with rfl | hge
    · rwa [pow_zero, mul_one]
    · exact hge
  have herror := h.two_mul_sub_le
  rw [← mul_sub, abs_mul, abs_of_pos two_pos] at herror
  rw [h.units_eq]
  calc |(r : Rat) * 2 ^ s - x| * (2 * F.binade) = 2 * |(r : Rat) * 2 ^ s - x| * F.binade := by ring
    _ ≤ 2 ^ s * F.binade := by gcongr
    _ ≤ x := by linarith

end Stepped

/-- Rounding gives the code of the nearest magnitude. -/
theorem round_eq_of_nearest (heven : 2 ∣ F.binade) {num den code : Nat} (hden : 0 < den)
    (hcode : code ≤ F.top) (h : F.Nearest code (num / den)) : F.round num den = code := by
  obtain ⟨s, r, hround, hstepped⟩ := F.exists_stepped num hden
  rw [hround, ← h.unique (hstepped.nearest heven), Nat.min_eq_right hcode]

/-- A quotient that is a magnitude is left as it is. -/
theorem round_eq_of_units (heven : 2 ∣ F.binade) {num den code : Nat} (hden : 0 < den)
    (hcode : code ≤ F.top) (h : (num : Rat) / den = F.units code) : F.round num den = code :=
  round_eq_of_nearest heven hden hcode (h ▸ nearest_units code)

/-- A quotient between the first magnitude with a leading one and infinity is changed by a part in
twice the binade at most. -/
theorem abs_units_round_sub_le {num den : Nat} (hden : 0 < den)
    (hlow : (F.binade : Rat) ≤ num / den) (hhigh : (num : Rat) / den * 2 < F.units F.top) :
    F.round num den < F.top ∧
      |(F.units (F.round num den) : Rat) - num / den| * (2 * F.binade) ≤ num / den := by
  obtain ⟨s, r, hround, hstepped⟩ := F.exists_stepped num hden
  have herror := hstepped.abs_sub_le hlow
  have hbinade : (1 : Rat) ≤ F.binade := by exact_mod_cast F.binade_pos
  have hless : s * F.binade + r < F.top := by
    have hnear : |(F.units (s * F.binade + r) : Rat) - num / den| * 2 ≤ num / den :=
      le_trans (by gcongr; linarith) herror
    have hunits : (F.units (s * F.binade + r) : Rat) < F.units F.top := by
      linarith [(abs_le.1 (le_refl |(F.units (s * F.binade + r) : Rat) - num / den|)).2]
    exact F.strictMono_units.lt_iff_lt.1 (by exact_mod_cast hunits)
  rw [hround, Nat.min_eq_right hless.le]
  exact ⟨hless, herror⟩

end Format

end BargeIn.Number
