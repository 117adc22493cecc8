import Mathlib

/-!
# Near misses of multiples

Which multiples `m * a` with `m < bound` come within `t` of a multiple of `b` and do not meet it?
All pairs `(m, n)` are combinations of two with determinant one or minus one, and the coordinates of
a near miss are small if those two are near misses themselves (`natAbs_coordinate_le`).  Euclid's
algorithm finds two such pairs (`reduce`), and of the few combinations that are left the near misses
are picked (`mem_nearMisses`).
-/

namespace BargeIn.Number

/-! ## Algorithm -/

/-- `m` times one number and `n` times another. -/
structure Multiples where
  m : Int
  n : Int
  deriving Repr, DecidableEq

/-- By how much `n * b` lies above `m * a`. -/
def Multiples.gap (a b : Nat) (p : Multiples) : Int := p.n * b - p.m * a

def Multiples.det (p q : Multiples) : Int := p.m * q.n - q.m * p.n

/-- Takes the second pair off the first as often as its gap goes into that of the first, and goes on
with the second pair and the outcome, as long as multiples stay below the bound. -/
def reduce (a b bound : Nat) : (steps : Nat) → Multiples → Multiples → Multiples × Multiples
  | 0, p, q => (p, q)
  | steps + 1, p, q =>
    let times : Int := (p.gap a b).natAbs / (q.gap a b).natAbs
    let next : Multiples := ⟨p.m + times * q.m, p.n + times * q.n⟩
    if q.gap a b = 0 ∨ bound ≤ next.m then (p, q) else reduce a b bound steps q next

/-- The greatest coordinate that a near miss has beside that of `p`. -/
def reach (a b bound t : Nat) (p : Multiples) : Nat :=
  (bound * (p.gap a b).natAbs + t * p.m.natAbs) / b

/-- The integers from `-k` to `k`. -/
def integersTo (k : Nat) : List Int := (List.range (2 * k + 1)).map fun (i : Nat) => (i : Int) - k

/-- The `m` below the bound whose multiple of `a` nearly meets a multiple of `b`.  Multiples differ
by a multiple of the greatest common divisor, so there are none if that is great. -/
def nearMisses (a b bound t : Nat) : List Int :=
  if t < a.gcd b then []
  else
    let (p, q) := reduce a b bound (2 * bound.log2) ⟨0, 1⟩ ⟨1, a / b⟩
    (integersTo (reach a b bound t q)).flatMap fun x =>
      ((integersTo (reach a b bound t p)).filter fun y =>
        decide (0 < x * p.m + y * q.m ∧ x * p.m + y * q.m < bound ∧
          x * p.gap a b + y * q.gap a b ≠ 0 ∧ (x * p.gap a b + y * q.gap a b).natAbs ≤ t)).map
        fun y => x * p.m + y * q.m

/-! ## Lemmas -/

theorem mem_integersTo {x : Int} {k : Nat} (h : x.natAbs ≤ k) : x ∈ integersTo k := by
  have hrange : (x + k).toNat < 2 * k + 1 := by omega
  exact List.mem_map.2 ⟨(x + k).toNat, List.mem_range.2 hrange, by omega⟩

theorem det_reduce (a b bound steps : Nat) (p q : Multiples) :
    (reduce a b bound steps p q).1.det (reduce a b bound steps p q).2 = p.det q ∨
      (reduce a b bound steps p q).1.det (reduce a b bound steps p q).2 = -p.det q := by
  induction steps generalizing p q with
  | zero => exact .inl rfl
  | succ steps ih =>
    unfold reduce
    simp only
    split
    · exact .inl rfl
    · generalize ((p.gap a b).natAbs : Int) / (q.gap a b).natAbs = times
      have hdet : q.det ⟨p.m + times * q.m, p.n + times * q.n⟩ = -p.det q := by
        simp only [Multiples.det]
        ring
      have hnext := ih q ⟨p.m + times * q.m, p.n + times * q.n⟩
      rw [hdet, neg_neg] at hnext
      exact hnext.symm

/-- The coordinate of a near miss beside that of `p` is small. -/
theorem natAbs_coordinate_le {a b bound t m : Nat} {n : Int} (hb : 0 < b) (hm : m < bound)
    (hnear : (n * b - m * a).natAbs ≤ t) (p : Multiples) :
    (m * p.n - n * p.m).natAbs ≤ reach a b bound t p := by
  unfold reach
  rw [Nat.le_div_iff_mul_le hb]
  have hkey : (m * p.n - n * p.m) * b = m * p.gap a b - (n * b - m * a) * p.m := by
    unfold Multiples.gap
    ring
  calc (m * p.n - n * p.m).natAbs * b = ((m * p.n - n * p.m) * b).natAbs := by
        rw [Int.natAbs_mul, Int.natAbs_natCast]
    _ = (m * p.gap a b - (n * b - m * a) * p.m).natAbs := by rw [hkey]
    _ ≤ (m * p.gap a b).natAbs + ((n * b - m * a) * p.m).natAbs := Int.natAbs_sub_le _ _
    _ = m * (p.gap a b).natAbs + (n * b - m * a).natAbs * p.m.natAbs := by
        rw [Int.natAbs_mul, Int.natAbs_mul, Int.natAbs_natCast]
    _ ≤ bound * (p.gap a b).natAbs + t * p.m.natAbs := by gcongr

/-- Every near miss is found. -/
theorem mem_nearMisses {a b bound t m n : Nat} (hb : 0 < b) (hpos : 0 < m) (hm : m < bound)
    (hne : (n * b - m * a : Int) ≠ 0) (hnear : (n * b - m * a : Int).natAbs ≤ t) :
    (m : Int) ∈ nearMisses a b bound t := by
  unfold nearMisses
  have hgcd : ¬t < a.gcd b := by
    have hdvd : ((a.gcd b : Nat) : Int) ∣ n * b - m * a :=
      Int.dvd_sub (Dvd.dvd.mul_left (Int.natCast_dvd_natCast.2 (Nat.gcd_dvd_right a b)) _)
        (Dvd.dvd.mul_left (Int.natCast_dvd_natCast.2 (Nat.gcd_dvd_left a b)) _)
    have hle := Nat.le_of_dvd (Int.natAbs_pos.2 hne) (Int.natCast_dvd.1 hdvd)
    omega
  rw [if_neg hgcd]
  have hdet := det_reduce a b bound (2 * bound.log2) ⟨0, 1⟩ ⟨1, a / b⟩
  generalize reduce a b bound (2 * bound.log2) ⟨0, 1⟩ ⟨1, a / b⟩ = pair at *
  obtain ⟨p, q⟩ := pair
  have hsign : p.det q = 1 ∨ p.det q = -1 := by
    simp only [Multiples.det] at hdet ⊢
    omega
  simp only
  -- the coordinates of `(m, n)`, up to the sign of the determinant
  have hx := natAbs_coordinate_le hb hm hnear q
  have hy := natAbs_coordinate_le hb hm hnear p
  obtain ⟨x, y, hx, hy, hxm, hxn⟩ : ∃ x y : Int, x.natAbs ≤ reach a b bound t q ∧
      y.natAbs ≤ reach a b bound t p ∧ x * p.m + y * q.m = m ∧ x * p.n + y * q.n = n := by
    rcases hsign with hone | hone
    · refine ⟨m * q.n - n * q.m, -(m * p.n - n * p.m), hx, by rwa [Int.natAbs_neg], ?_, ?_⟩ <;>
        simp only [Multiples.det] at hone
      · linear_combination (m : Int) * hone
      · linear_combination (n : Int) * hone
    · refine ⟨-(m * q.n - n * q.m), m * p.n - n * p.m, by rwa [Int.natAbs_neg], hy, ?_, ?_⟩ <;>
        simp only [Multiples.det] at hone
      · linear_combination -(m : Int) * hone
      · linear_combination -(n : Int) * hone
  have hgap : x * p.gap a b + y * q.gap a b = n * b - m * a := by
    unfold Multiples.gap
    linear_combination (b : Int) * hxn - (a : Int) * hxm
  refine List.mem_flatMap.2 ⟨x, mem_integersTo hx, List.mem_map.2 ⟨y, ?_, hxm⟩⟩
  refine List.mem_filter.2 ⟨mem_integersTo hy, ?_⟩
  rw [decide_eq_true_iff, hgap, hxm]
  exact ⟨by exact_mod_cast hpos, by exact_mod_cast hm, hne, hnear⟩

end BargeIn.Number
