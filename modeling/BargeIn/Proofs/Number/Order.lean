import Mathlib
import BargeIn.Number.Binary

/-!
# The order of binary numbers

Codes number the magnitudes of a format in ascending order, so comparing signed codes compares
values.  `lt_iff_below` says so: `x.lt y` holds exactly when both are numbers and the exact value
of `x` is less than that of `y`.
-/

namespace BargeIn.Number

namespace Format

variable (F : Format)

theorem binade_pos : 0 < F.binade := Nat.pow_pos (by decide)

theorem units_of_lt {c : Nat} (h : c < F.binade) : F.units c = c := by
  unfold units
  rw [if_pos (Nat.div_eq_of_lt h)]

/-- The magnitude at place `r` of the binade with exponent `q`. -/
theorem units_add_mul (q r : Nat) (h : r < F.binade) :
    F.units ((q + 1) * F.binade + r) = (F.binade + r) * Nat.pow 2 q := by
  have hd : ((q + 1) * F.binade + r) / F.binade = q + 1 := by
    rw [Nat.add_comm, Nat.add_mul_div_right _ _ F.binade_pos, Nat.div_eq_of_lt h, Nat.zero_add]
  have hm : ((q + 1) * F.binade + r) % F.binade = r := by
    rw [Nat.add_comm, Nat.add_mul_mod_self_right, Nat.mod_eq_of_lt h]
  unfold units
  rw [hd, hm, if_neg (Nat.succ_ne_zero q), Nat.add_sub_cancel]

/-- A magnitude is a number of steps from zero; from the first binade with a leading one, the number
has a leading one as well. -/
theorem units_scaled {q m : Nat} (hm : m ≤ 2 * F.binade) (hq : q = 0 ∨ F.binade ≤ m) :
    F.units (q * F.binade + m) = m * 2 ^ q := by
  rcases Nat.lt_or_ge m F.binade with hlt | hge
  · obtain rfl : q = 0 := hq.resolve_right (Nat.not_le.2 hlt)
    rw [Nat.zero_mul, Nat.zero_add, F.units_of_lt hlt, Nat.pow_zero, Nat.mul_one]
  obtain ⟨r, rfl⟩ := Nat.exists_eq_add_of_le hge
  rcases Nat.lt_or_ge r F.binade with hr | hr
  · have hcode : q * F.binade + (F.binade + r) = (q + 1) * F.binade + r := by ring
    rw [hcode, F.units_add_mul q r hr, Nat.pow_eq]
  · -- the first step of the next binade, which is twice as wide
    obtain rfl : r = F.binade := by omega
    have hcode : q * F.binade + (F.binade + F.binade) = (q + 1 + 1) * F.binade + 0 := by ring
    rw [hcode, F.units_add_mul (q + 1) 0 F.binade_pos, Nat.pow_eq]
    ring

/-- Every code is of this kind. -/
theorem exists_scaled (c : Nat) :
    ∃ q m, c = q * F.binade + m ∧ m < 2 * F.binade ∧ (q = 0 ∨ F.binade ≤ m) := by
  have hpos := F.binade_pos
  rcases Nat.lt_or_ge c F.binade with hc | hc
  · exact ⟨0, c, by omega, by omega, .inl rfl⟩
  · have hdiv : 0 < c / F.binade := Nat.div_pos hc hpos
    have hr := Nat.mod_lt c hpos
    refine ⟨c / F.binade - 1, F.binade + c % F.binade, ?_, by omega, .inr (Nat.le_add_right _ _)⟩
    obtain ⟨q, hq⟩ := Nat.exists_eq_add_of_lt hdiv
    have hcode := Nat.div_add_mod c F.binade
    rw [hq] at hcode ⊢
    simp only [Nat.zero_add, Nat.add_sub_cancel]
    linarith [hcode, Nat.mul_comm F.binade (0 + q + 1), Nat.add_mul q 1 F.binade]

theorem units_lt_units_succ (c : Nat) : F.units c < F.units (c + 1) := by
  obtain ⟨q, m, rfl, hm, hq⟩ := F.exists_scaled c
  rw [F.units_scaled hm.le hq, Nat.add_assoc, F.units_scaled hm (hq.imp_right Nat.le_succ_of_le)]
  exact Nat.mul_lt_mul_of_pos_right (Nat.lt_succ_self m) (Nat.two_pow_pos q)

theorem strictMono_units : StrictMono F.units := strictMono_nat_of_lt_succ F.units_lt_units_succ

@[simp] theorem units_zero : F.units 0 = 0 := F.units_of_lt F.binade_pos

theorem units_pos {c : Nat} (hc : c ≠ 0) : 0 < F.units c := by
  rw [← F.units_zero]
  exact F.strictMono_units (Nat.pos_of_ne_zero hc)

end Format

namespace Binary

variable {F : Format}

/-- The exact value in units of the format, none for what is not a number.  Infinity stands for the
magnitude that would come after the largest finite one. -/
def value? : Binary F → Option Int
  | .nan => none
  | .real negative code _ => some (if negative then -(F.units code : Int) else F.units code)

/-- Both are numbers, and the value of `x` is less than that of `y`. -/
def Below (x y : Binary F) : Prop := ∃ a ∈ x.value?, ∃ b ∈ y.value?, a < b

theorem rank_lt_rank {s t : Bool} {a b : Nat} :
    rank s a < rank t b ↔
      (if s then -(F.units a : Int) else F.units a) <
        if t then -(F.units b : Int) else F.units b := by
  have hlt : ∀ m n : Nat, F.units m < F.units n ↔ m < n := fun m n => F.strictMono_units.lt_iff_lt
  have hzero := F.units_zero
  have hab := hlt a b
  have hba := hlt b a
  have ha := hlt 0 a
  have hb := hlt 0 b
  cases s <;> cases t <;> simp only [rank, Bool.false_eq_true, if_false, if_true] <;> omega

theorem lt_iff_below {x y : Binary F} : x.lt y = true ↔ x.Below y := by
  cases x with
  | nan => simp [lt, Below, value?]
  | real s a ha =>
    cases y with
    | nan => simp [lt, Below, value?]
    | real t b hb => simp [lt, Below, value?, rank_lt_rank (F := F)]

instance (x y : Binary F) : Decidable (x.Below y) := decidable_of_iff _ lt_iff_below

/-- Both are numbers, and the value of `x` is not greater than that of `y`. -/
def AtMost (x y : Binary F) : Prop := ∃ a ∈ x.value?, ∃ b ∈ y.value?, a ≤ b

instance (x y : Binary F) : Decidable (x.AtMost y) := by
  unfold AtMost
  infer_instance

theorem Below.of_atMost {x y z : Binary F} (h : x.Below y) (hle : y.AtMost z) : x.Below z := by
  obtain ⟨a, ha, b, hb, hab⟩ := h
  obtain ⟨b', hb', c, hc, hbc⟩ := hle
  rw [Option.mem_def] at hb hb'
  obtain rfl : b = b' := Option.some.inj (hb.symm.trans hb')
  exact ⟨a, ha, c, hc, by omega⟩

theorem AtMost.below {x y z : Binary F} (h : x.AtMost y) (hlt : y.Below z) : x.Below z := by
  obtain ⟨a, ha, b, hb, hab⟩ := h
  obtain ⟨b', hb', c, hc, hbc⟩ := hlt
  rw [Option.mem_def] at hb hb'
  obtain rfl : b = b' := Option.some.inj (hb.symm.trans hb')
  exact ⟨a, ha, c, hc, by omega⟩

theorem not_below_self (x : Binary F) : ¬x.Below x := by
  rintro ⟨a, ha, b, hb, hab⟩
  obtain rfl : a = b := Option.some.inj (ha.symm.trans hb)
  exact lt_irrefl a hab

theorem Below.trans {x y z : Binary F} (hxy : x.Below y) (hyz : y.Below z) : x.Below z := by
  obtain ⟨b, hb, c, hc, hbc⟩ := hyz
  exact hxy.of_atMost ⟨b, hb, c, hc, hbc.le⟩

/-! ## Clamping -/

section

variable {x low high : Binary F}

theorem clamp_of_below (h : x.Below low) : x.clamp low high = low := if_pos (lt_iff_below.2 h)

theorem clamp_of_above (hbounds : ¬high.Below low) (h : high.Below x) :
    x.clamp low high = high := by
  have hlow : ¬x.Below low := fun hx => hbounds (h.trans hx)
  unfold clamp
  rw [if_neg (mt lt_iff_below.1 hlow), if_pos (lt_iff_below.2 h)]

/-- A value that lies outside neither bound is kept, as is one that is not a number. -/
theorem clamp_of_between (hlow : ¬x.Below low) (hhigh : ¬high.Below x) :
    x.clamp low high = x := by
  unfold clamp
  rw [if_neg (mt lt_iff_below.1 hlow), if_neg (mt lt_iff_below.1 hhigh)]

/-- Moved between two bounds, a value lies outside neither. -/
theorem between_clamp (x : Binary F) (hbounds : ¬high.Below low) :
    ¬(x.clamp low high).Below low ∧ ¬high.Below (x.clamp low high) := by
  by_cases hlow : x.Below low
  · rw [clamp_of_below hlow]
    exact ⟨not_below_self low, hbounds⟩
  · by_cases hhigh : high.Below x
    · rw [clamp_of_above hbounds hhigh]
      exact ⟨hbounds, not_below_self high⟩
    · rw [clamp_of_between hlow hhigh]
      exact ⟨hlow, hhigh⟩

/-- Moved between two bounds, a value stays where it is. -/
theorem clamp_clamp (x : Binary F) (hbounds : ¬high.Below low) :
    (x.clamp low high).clamp low high = x.clamp low high := by
  obtain ⟨hlow, hhigh⟩ := between_clamp x hbounds
  exact clamp_of_between hlow hhigh

theorem isFinite_clamp (hlow : low.isFinite = true) (hhigh : high.isFinite = true)
    (hx : x.isFinite = true) : (x.clamp low high).isFinite = true := by
  unfold clamp
  split
  · exact hlow
  · split
    · exact hhigh
    · exact hx

end

/-! ## Values outside an interval -/

end Binary

end BargeIn.Number
