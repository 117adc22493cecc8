import Mathlib
import BargeIn.Json.Printer
import BargeIn.Proofs.Json.NumberText

/-!
# Integers are read as they were written

An integer of a document fits into sixty-four bits, with or without sign, and no other number of a
document is one: `readNumber` gives integers and doubles that `Fits` describes.  The text of such an
integer is read as that integer (`readNumber_integer`), which is not so for every double.
-/

namespace BargeIn.Json

open BargeIn.Number

/-- A number as the reader of numbers gives it. -/
def Numeral.Fits : Json.Numeral → Prop
  | .integer i => -(2 ^ 63) ≤ i ∧ i < 2 ^ 64
  | .single _ => False
  | .double _ => True

/-! ## What is read fits -/

theorem appendFitting_lt {n : Nat} (hn : n < Nat.pow 2 64) (digits : List Char) :
    (appendFitting n digits).1 < Nat.pow 2 64 := by
  induction digits generalizing n with
  | nil => exact hn
  | cons c digits ih =>
    unfold appendFitting
    split
    · next h => exact ih h
    · exact hn

theorem fits_integerOf (negative : Bool) {n : Nat} (hn : n < Nat.pow 2 64) :
    (integerOf negative n).Fits := by
  have hpow : Nat.pow 2 64 = 2 ^ 64 := rfl
  have hhalf : Nat.pow 2 63 = 2 ^ 63 := rfl
  unfold integerOf
  split
  · split
    · simp only [Numeral.Fits]
      omega
    · trivial
  · simp only [Numeral.Fits]
    omega

theorem fits_of_doubleOf {negative : Bool} {n : Nat} {e : Int} {m : Json.Numeral}
    (h : doubleOf negative n e = .ok m) : m.Fits := by
  unfold doubleOf at h
  split at h
  · cases h
  · cases h
    trivial

theorem fits_of_readMagnitude {negative : Bool} {s rest : List Char} {m : Json.Numeral}
    (h : readMagnitude negative s = .ok (m, rest)) : m.Fits := by
  unfold readMagnitude at h
  simp only at h
  split at h
  · cases h
  split at h
  · cases h
  split at h
  · split at h
    · cases h
    · obtain ⟨⟨e, t⟩, -, h⟩ := bind_eq_ok.1 h
      obtain ⟨x, hx, h⟩ := bind_eq_ok.1 h
      cases h
      exact fits_of_doubleOf hx
  · obtain ⟨⟨e, t⟩, -, h⟩ := bind_eq_ok.1 h
    simp only at h
    split at h
    · cases h
      exact fits_integerOf negative (appendFitting_lt (by decide) _)
    · obtain ⟨x, hx, h⟩ := bind_eq_ok.1 h
      cases h
      exact fits_of_doubleOf hx

theorem fits_of_readNumber {s rest : List Char} {m : Json.Numeral}
    (h : readNumber s = .ok (m, rest)) : m.Fits := by
  unfold readNumber at h
  split at h <;> exact fits_of_readMagnitude h

/-! ## Integers come back -/

theorem le_ofDigitChars (digits : List Char) (n : Nat) : n ≤ Nat.ofDigitChars 10 digits n := by
  induction digits generalizing n with
  | nil => exact Nat.le_refl n
  | cons c digits ih =>
    rw [Nat.ofDigitChars_cons]
    exact Nat.le_trans (by omega) (ih _)

/-- Digits of a number that fits are taken to the last one. -/
theorem appendFitting_of_lt {digits : List Char} {n : Nat}
    (h : Nat.ofDigitChars 10 digits n < Nat.pow 2 64) :
    appendFitting n digits = (Nat.ofDigitChars 10 digits n, []) := by
  induction digits generalizing n with
  | nil => rfl
  | cons c digits ih =>
    rw [Nat.ofDigitChars_cons, ← digitValue] at h ⊢
    unfold appendFitting
    have hle := le_ofDigitChars digits (10 * n + digitValue c)
    rw [if_pos (Nat.lt_of_le_of_lt hle h)]
    exact ih h

/-- A number that is not zero is written without a zero in front. -/
theorem head_toDigits {n : Nat} (hn : n ≠ 0) : (Nat.toDigits 10 n).head? ≠ some '0' := by
  induction n using Nat.strongRecOn with
  | ind n ih =>
    rw [Nat.toDigits_eq_if (by decide)]
    split
    · next hlt =>
      have hdigit : ∀ d < 10, d ≠ 0 → [Nat.digitChar d].head? ≠ some '0' := by decide
      exact hdigit n hlt hn
    · next hlt =>
      rw [List.head?_append_of_ne_nil _ Nat.toDigits_ne_nil]
      exact ih (n / 10) (by omega) (by omega)

theorem readMagnitude_toDigits (negative : Bool) {n : Nat} (hn : n < Nat.pow 2 64) :
    readMagnitude negative (Nat.toDigits 10 n) = .ok (integerOf negative n, []) := by
  have hdigits := isDigits_toDigits n
  have htake := hdigits.takeDigits_append (s := []) (by simp)
  rw [List.append_nil] at htake
  have hzero : ¬((Nat.toDigits 10 n).head? = some '0' ∧ Nat.toDigits 10 n ≠ ['0']) := by
    rintro ⟨hhead, hne⟩
    by_cases h : n = 0
    · exact hne (by rw [h, Nat.toDigits_zero])
    · exact head_toDigits h hhead
  have hfit : appendFitting 0 (Nat.toDigits 10 n) = (n, []) := by
    have hvalue := Nat.ofDigitChars_ten_toDigits (n := n)
    rw [appendFitting_of_lt (by rwa [hvalue]), hvalue]
  simp only [readMagnitude, htake, if_neg hdigits.1, if_neg hzero, hfit]
  rfl

/-- The text of an integer that fits is read as that integer. -/
theorem readNumber_integer {i : Int} (h : (Numeral.integer i).Fits) :
    readNumber (renderNumber (.integer i)) = .ok (.integer i, []) := by
  obtain ⟨hlow, hhigh⟩ := h
  have hpow : Nat.pow 2 64 = 2 ^ 64 := rfl
  have hhalf : Nat.pow 2 63 = 2 ^ 63 := rfl
  by_cases hi : i < 0
  · have hread := readMagnitude_toDigits true (n := i.natAbs) (by omega)
    simp only [renderNumber, if_pos hi]
    refine hread.trans ?_
    rw [integerOf, if_pos rfl, if_pos (by omega)]
    congr 3
    omega
  · have hread := readMagnitude_toDigits false (n := i.natAbs) (by omega)
    obtain ⟨c, t, ht⟩ := List.exists_cons_of_ne_nil (isDigits_toDigits i.natAbs).1
    have hc : c.isDigit = true := (isDigits_toDigits i.natAbs).2 c (by simp [ht])
    simp only [renderNumber, if_neg hi, List.nil_append]
    rw [ht, readNumber_of_isDigit hc, ← ht, hread]
    simp only [integerOf, Bool.false_eq_true, if_false]
    congr 3
    omega

end BargeIn.Json
