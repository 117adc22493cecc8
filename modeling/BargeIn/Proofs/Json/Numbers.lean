import Mathlib
import BargeIn.Json.Scanner

/-!
# Numbers end where they cannot go on

A number has no closing mark: its reader stops at the first character that cannot continue it.  A
text that has the form of a number,

    sign? digits ('.' digits)? ('e' ('+' | '-') digits)?                        (IsNumber)

is therefore read to its end and no further in front of everything that does not begin with a
digit, a point or an exponent mark, and what is read of it does not depend on what follows
(`IsNumber.readNumber_append`).
-/

namespace BargeIn.Json

open BargeIn.Number

/-- Can `c` stand behind the first digit of a number? -/
def continuesNumber (c : Char) : Bool := c.isDigit || c == '.' || c == 'e' || c == 'E'

/-- A number that ends in front of `s` does not go on in it. -/
def EndsNumber (s : List Char) : Prop := ∀ c ∈ s.head?, continuesNumber c = false

theorem endsNumber_nil : EndsNumber [] := by simp [EndsNumber]

theorem endsNumber_cons {c : Char} {s : List Char} :
    EndsNumber (c :: s) ↔ continuesNumber c = false := by
  simp [EndsNumber]

theorem EndsNumber.head_ne {c : Char} {s : List Char} (h : EndsNumber (c :: s)) :
    c.isDigit = false ∧ c ≠ '.' ∧ c ≠ 'e' ∧ c ≠ 'E' := by
  rw [endsNumber_cons] at h
  simpa [continuesNumber, and_assoc] using h

/-! ## The form of a number -/

/-- One decimal digit or more. -/
def IsDigits (t : List Char) : Prop := t ≠ [] ∧ ∀ c ∈ t, c.isDigit = true

/-- Nothing, or a point and digits. -/
def IsFraction (t : List Char) : Prop := t = [] ∨ ∃ digits, IsDigits digits ∧ t = '.' :: digits

/-- Nothing, or an exponent mark, a sign and digits. -/
def IsExponent (t : List Char) : Prop :=
  t = [] ∨ ∃ sign digits, (sign = '-' ∨ sign = '+') ∧ IsDigits digits ∧ t = 'e' :: sign :: digits

/-- A number without its sign. -/
def IsMagnitude (t : List Char) : Prop :=
  ∃ whole fraction exponent, IsDigits whole ∧ IsFraction fraction ∧ IsExponent exponent ∧
    t = whole ++ (fraction ++ exponent)

/-- A number. -/
def IsNumber (t : List Char) : Prop := ∃ u, IsMagnitude u ∧ (t = u ∨ t = '-' :: u)

/-! ## Parts of a number -/

/-- Digits are taken together if no digit follows. -/
theorem IsDigits.takeDigits_append {t s : List Char} (ht : IsDigits t)
    (hs : ∀ c ∈ s.head?, c.isDigit = false) : takeDigits (t ++ s) = (t, s) := by
  have hstop : s.takeWhile Char.isDigit = [] ∧ s.dropWhile Char.isDigit = s := by
    cases s with
    | nil => exact ⟨rfl, rfl⟩
    | cons c s => simp [hs c rfl]
  unfold takeDigits
  rw [List.takeWhile_append_of_pos ht.2, List.dropWhile_append_of_pos ht.2, hstop.1, hstop.2,
    List.append_nil]

theorem EndsNumber.head_isDigit {s : List Char} (hs : EndsNumber s) :
    ∀ c ∈ s.head?, c.isDigit = false := by
  cases s with
  | nil => simp
  | cons c s => simp [hs.head_ne.1]

theorem IsExponent.head_append {t rest : List Char} (ht : IsExponent t) (hrest : EndsNumber rest) :
    ∀ c ∈ (t ++ rest).head?, c.isDigit = false ∧ c ≠ '.' := by
  rcases ht with rfl | ⟨sign, digits, -, -, rfl⟩
  · cases rest with
    | nil => simp
    | cons c rest => simp [hrest.head_ne]
  · simp

theorem IsFraction.head_append {t s : List Char} (ht : IsFraction t)
    (hs : ∀ c ∈ s.head?, c.isDigit = false) : ∀ c ∈ (t ++ s).head?, c.isDigit = false := by
  rcases ht with rfl | ⟨digits, -, rfl⟩
  · simpa using hs
  · simp

/-- An exponent is read in the same way whatever follows it. -/
theorem IsExponent.readExponent_append {t : List Char} (ht : IsExponent t) :
    ∃ e, ∀ rest, EndsNumber rest → readExponent (t ++ rest) = .ok (e, rest) := by
  rcases ht with rfl | ⟨sign, digits, hsign, hdigits, rfl⟩
  · refine ⟨none, fun rest hrest => ?_⟩
    cases rest with
    | nil => rfl
    | cons c rest =>
      obtain ⟨-, -, he, hE⟩ := hrest.head_ne
      simp [readExponent, he, hE]
  · have hne := hdigits.1
    rcases hsign with rfl | rfl
    · refine ⟨some (-(digitsValue digits : Int)), fun rest hrest => ?_⟩
      simp [readExponent, takeSign, hdigits.takeDigits_append hrest.head_isDigit, hne]
    · refine ⟨some (digitsValue digits), fun rest hrest => ?_⟩
      simp [readExponent, takeSign, hdigits.takeDigits_append hrest.head_isDigit, hne]

/-! ## Numbers -/

/-- A number without its sign is read to its end, in the same way whatever follows it. -/
theorem IsMagnitude.readMagnitude_append {t : List Char} (ht : IsMagnitude t) (negative : Bool) :
    ∃ result : Except Fault Json.Numeral, ∀ rest, EndsNumber rest →
      readMagnitude negative (t ++ rest) = result.map (·, rest) := by
  obtain ⟨whole, fraction, exponent, hwhole, hfraction, hexponent, rfl⟩ := ht
  obtain ⟨e, he⟩ := hexponent.readExponent_append
  have htake : ∀ rest, EndsNumber rest →
      takeDigits (whole ++ (fraction ++ (exponent ++ rest))) =
        (whole, fraction ++ (exponent ++ rest)) := fun rest hrest =>
    hwhole.takeDigits_append <| hfraction.head_append fun c hc =>
      (hexponent.head_append hrest c hc).1
  simp only [List.append_assoc]
  by_cases hzero : whole.head? = some '0' ∧ whole ≠ ['0']
  · refine ⟨.error .malformed, fun rest hrest => ?_⟩
    simp only [readMagnitude, htake rest hrest, if_neg hwhole.1, if_pos hzero]
    rfl
  generalize hfit : appendFitting 0 whole = fitting at *
  obtain ⟨n, excess⟩ := fitting
  rcases hfraction with rfl | ⟨digits, hdigits, rfl⟩
  · -- no point follows the digits
    simp only [List.nil_append] at htake ⊢
    refine ⟨if e = none ∧ excess = [] then .ok (integerOf negative n)
      else doubleOf negative n (excess.length + e.getD 0), fun rest hrest => ?_⟩
    simp only [readMagnitude, htake rest hrest, if_neg hwhole.1, if_neg hzero, hfit]
    split
    · next heq => exact absurd rfl (hexponent.head_append hrest '.' (by simp [heq])).2
    rw [he rest hrest, ok_bind]
    simp only
    split
    · rfl
    · next hmarked =>
      rw [if_neg fun h => hmarked h.1 h.2]
      cases doubleOf negative n (excess.length + e.getD 0) <;> rfl
  · simp only [List.cons_append] at htake ⊢
    have hdigitsTake : ∀ rest, EndsNumber rest →
        takeDigits (digits ++ (exponent ++ rest)) = (digits, exponent ++ rest) := fun rest hrest =>
      hdigits.takeDigits_append fun c hc => (hexponent.head_append hrest c hc).1
    generalize hfraction : appendFitting n digits = fitting
    obtain ⟨m, left⟩ := fitting
    refine ⟨doubleOf negative m (excess.length - (digits.length - left.length) + e.getD 0),
      fun rest hrest => ?_⟩
    simp only [readMagnitude, htake rest hrest, if_neg hwhole.1, if_neg hzero, hfit,
      hdigitsTake rest hrest, if_neg hdigits.1, hfraction]
    rw [he rest hrest, ok_bind]
    cases doubleOf negative m _ <;> rfl

/-- A number begins like one. -/
theorem IsNumber.head {t : List Char} (ht : IsNumber t) :
    ∃ c s, t = c :: s ∧ startsNumber c = true := by
  obtain ⟨u, ⟨whole, fraction, exponent, hwhole, -, -, rfl⟩, rfl | rfl⟩ := ht
  · obtain ⟨c, s, rfl⟩ := List.exists_cons_of_ne_nil hwhole.1
    refine ⟨c, _, rfl, ?_⟩
    simp [startsNumber, hwhole.2 c List.mem_cons_self]
  · exact ⟨'-', _, rfl, rfl⟩

theorem readNumber_of_isDigit {c : Char} (hc : c.isDigit = true) (s : List Char) :
    readNumber (c :: s) = readMagnitude false (c :: s) := by
  unfold readNumber
  split
  · next heq =>
    obtain ⟨rfl, -⟩ := List.cons.inj heq
    exact absurd hc (by decide)
  · rfl

/-- A sign tells how the rest of a number is read. -/
theorem IsMagnitude.readNumber_sign {u : List Char} (hu : IsMagnitude u) (negative : Bool)
    (rest : List Char) :
    readNumber ((if negative = true then ['-'] else []) ++ u ++ rest) =
      readMagnitude negative (u ++ rest) := by
  cases negative with
  | true => rfl
  | false =>
    obtain ⟨whole, fraction, exponent, hwhole, -, -, rfl⟩ := hu
    obtain ⟨c, s, rfl⟩ := List.exists_cons_of_ne_nil hwhole.1
    exact readNumber_of_isDigit (hwhole.2 c List.mem_cons_self) _

/-- A number is read to its end, in the same way whatever follows it. -/
theorem IsNumber.readNumber_append {t rest : List Char} (ht : IsNumber t)
    (hrest : EndsNumber rest) :
    readNumber (t ++ rest) = (readNumber t).map fun p => (p.1, rest) := by
  obtain ⟨u, hu, hsign⟩ := ht
  obtain ⟨negative, hnegative⟩ : ∃ negative, ∀ rest,
      readNumber (t ++ rest) = readMagnitude negative (u ++ rest) := by
    rcases hsign with rfl | rfl
    · exact ⟨false, hu.readNumber_sign false⟩
    · exact ⟨true, hu.readNumber_sign true⟩
  obtain ⟨result, hresult⟩ := hu.readMagnitude_append negative
  have hwhole := hresult [] endsNumber_nil
  rw [← hnegative, List.append_nil] at hwhole
  rw [hnegative, hresult rest hrest, hwhole]
  cases result <;> rfl

end BargeIn.Json
