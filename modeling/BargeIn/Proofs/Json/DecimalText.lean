import Mathlib
import BargeIn.Proofs.Json.Integers
import BargeIn.Proofs.Number.Shortest

/-!
# Decimals are read as written

The text of a decimal, whatever its layout, is read as digits and an exponent of the same value
(`readsAs_decimal`).  Digits that lie between the first and the last digit that is not zero
are few, so they are taken together, and in the positional layout at most one zero is read beside
those in front of the point.
-/

namespace BargeIn.Json

open BargeIn.Number

/-! ## Rows of digits -/

theorem digitsValue_append (s t : List Char) :
    digitsValue (s ++ t) = digitsValue s * 10 ^ t.length + digitsValue t := by
  unfold digitsValue
  rw [Nat.ofDigitChars_append, Nat.ofDigitChars_eq_ofDigitChars_zero, Nat.mul_comm]

theorem digitsValue_replicate (n : Nat) : digitsValue (List.replicate n '0') = 0 := by
  simp [digitsValue]

/-! ## Reading the parts -/

/-- What a number without its sign is read as if it has a point. -/
theorem readMagnitude_point {whole fraction rest : List Char} {e : Option Int}
    (hwhole : IsDigits whole) (hzero : ¬(whole.head? = some '0' ∧ whole ≠ ['0']))
    (hfraction : IsDigits fraction) (hrest : ∀ c ∈ rest.head?, c.isDigit = false)
    (hexponent : readExponent rest = .ok (e, []))
    (hfit : digitsValue (whole ++ fraction) < Nat.pow 2 64) (negative : Bool) :
    readMagnitude negative (whole ++ '.' :: (fraction ++ rest)) =
      (doubleOf negative (digitsValue (whole ++ fraction)) (e.getD 0 - fraction.length)).map
        (·, []) := by
  have htake : takeDigits (whole ++ '.' :: (fraction ++ rest)) =
      (whole, '.' :: (fraction ++ rest)) := hwhole.takeDigits_append (by simp)
  have hdigits : takeDigits (fraction ++ rest) = (fraction, rest) :=
    hfraction.takeDigits_append hrest
  have hvalue : Nat.ofDigitChars 10 fraction (digitsValue whole) =
      digitsValue (whole ++ fraction) := (Nat.ofDigitChars_append 0).symm
  have hfitWhole : appendFitting 0 whole = (digitsValue whole, []) := by
    apply appendFitting_of_lt
    have hle := le_ofDigitChars fraction (digitsValue whole)
    rw [hvalue] at hle
    exact Nat.lt_of_le_of_lt hle hfit
  have hfitFraction : appendFitting (digitsValue whole) fraction =
      (digitsValue (whole ++ fraction), []) := by
    rw [appendFitting_of_lt (by rwa [hvalue]), hvalue]
  simp only [readMagnitude, htake, if_neg hwhole.1, if_neg hzero, hfitWhole, hdigits,
    if_neg hfraction.1, hfitFraction, hexponent, ok_bind]
  have hplaces : (([] : List Char).length : Int) - (fraction.length - ([] : List Char).length) +
      e.getD 0 = e.getD 0 - fraction.length := by
    simp
    ring
  rw [hplaces]
  cases doubleOf negative (digitsValue (whole ++ fraction)) (e.getD 0 - fraction.length) <;> rfl

/-- What a number without its sign is read as if it has an exponent and no point. -/
theorem readMagnitude_mark {whole rest : List Char} {e : Int} (hwhole : IsDigits whole)
    (hzero : ¬(whole.head? = some '0' ∧ whole ≠ ['0']))
    (hrest : ∀ c ∈ rest.head?, c.isDigit = false ∧ c ≠ '.')
    (hexponent : readExponent rest = .ok (some e, []))
    (hfit : digitsValue whole < Nat.pow 2 64) (negative : Bool) :
    readMagnitude negative (whole ++ rest) =
      (doubleOf negative (digitsValue whole) e).map (·, []) := by
  have htake : takeDigits (whole ++ rest) = (whole, rest) :=
    hwhole.takeDigits_append fun c hc => (hrest c hc).1
  simp only [readMagnitude, htake, if_neg hwhole.1, if_neg hzero, appendFitting_of_lt hfit]
  split
  · exact absurd rfl (hrest '.' rfl).2
  rw [hexponent, ok_bind]
  simp only [List.length_nil, Nat.cast_zero, zero_add, Option.getD_some]
  have hvalue : Nat.ofDigitChars 10 whole 0 = digitsValue whole := rfl
  rw [hvalue]
  cases doubleOf negative (digitsValue whole) e <;> rfl

theorem readExponent_lead (lead : Int) :
    readExponent ('e' :: (if lead < 0 then '-' else '+') :: Nat.toDigits 10 lead.natAbs) =
      .ok (some lead, []) := by
  have hdigits := isDigits_toDigits lead.natAbs
  have htake : takeDigits (Nat.toDigits 10 lead.natAbs) = (Nat.toDigits 10 lead.natAbs, []) := by
    have htake := hdigits.takeDigits_append (s := []) (by simp)
    rwa [List.append_nil] at htake
  have hvalue : digitsValue (Nat.toDigits 10 lead.natAbs) = lead.natAbs :=
    Nat.ofDigitChars_ten_toDigits
  split
  · next hneg =>
    simp only [readExponent, takeSign, htake, if_neg hdigits.1, hvalue, true_or, if_true]
    congr 3
    omega
  · next hpos =>
    simp only [readExponent, takeSign, htake, if_neg hdigits.1, hvalue, true_or, if_true,
      Bool.false_eq_true, if_false]
    congr 3
    omega

/-! ## Reading a layout -/

/-- Digits and an exponent that are read of a number, and their value. -/
def ReadsAs (text : List Char) (value : Rat) (n : Nat) (e : Int) : Prop :=
  (n : Rat) * 10 ^ e = value ∧
    ∀ negative, readMagnitude negative text = (doubleOf negative n e).map (·, [])

section Layouts

variable {digits : List Char} (hdigits : IsDigits digits) (hhead : digits.head? ≠ some '0')
include hdigits hhead

/-- A positional text is read as its digits, or with one more zero behind the point. -/
theorem readsAs_positional {lead : Int}
    (hfit : digitsValue digits * 10 ^ (lead + 2 - digits.length).toNat < Nat.pow 2 64) :
    ∃ n e, ReadsAs (Layout.positional digits lead)
        (digitsValue digits * 10 ^ (lead + 1 - digits.length)) n e ∧
      (n = digitsValue digits ∨
        n = digitsValue digits * 10 ^ (lead + 2 - digits.length).toNat) := by
  have hsmall : digitsValue digits < Nat.pow 2 64 :=
    Nat.lt_of_le_of_lt (Nat.le_mul_of_pos_right _ (Nat.pow_pos (by decide))) hfit
  have hnil : ∀ c ∈ ([] : List Char).head?, c.isDigit = false := by simp
  rcases Int.lt_or_le lead 0 with hlead | hlead
  · -- zeros between the point and the digits
    refine ⟨_, _, ⟨rfl, fun negative => ?_⟩, .inl rfl⟩
    have hfraction := isDigits_append (fun c => isDigit_of_mem_replicate (n := (-lead - 1).toNat))
      hdigits.2 (.inr hdigits.1)
    have hvalue : digitsValue (['0'] ++ (List.replicate (-lead - 1).toNat '0' ++ digits)) =
        digitsValue digits := by
      have hzero : digitsValue ['0'] = 0 := rfl
      rw [digitsValue_append, digitsValue_append, digitsValue_replicate, hzero]
      simp
    have hread := readMagnitude_point isDigits_zero (by simp) hfraction hnil (e := none) rfl
      (by rwa [hvalue]) negative
    rw [hvalue, List.append_nil] at hread
    have htext : Layout.positional digits lead =
        ['0'] ++ '.' :: (List.replicate (-lead - 1).toNat '0' ++ digits) := by
      simp [Layout.positional, hlead]
    rw [htext, hread]
    congr 2
    simp
    omega
  rcases Nat.lt_or_ge (lead.toNat + 1) digits.length with hlong | hshort
  · -- the point stands between two of the digits
    refine ⟨_, _, ⟨rfl, fun negative => ?_⟩, .inl rfl⟩
    have hwhole : IsDigits (digits.take (lead.toNat + 1)) :=
      ⟨by simpa using hdigits.1, fun c hc => hdigits.2 c (List.mem_of_mem_take hc)⟩
    have hfraction : IsDigits (digits.drop (lead.toNat + 1)) :=
      ⟨by simpa using hlong, fun c hc => hdigits.2 c (List.mem_of_mem_drop hc)⟩
    have hzero : ¬((digits.take (lead.toNat + 1)).head? = some '0' ∧
        digits.take (lead.toNat + 1) ≠ ['0']) := by
      rw [List.head?_take, if_neg (Nat.succ_ne_zero _)]
      exact fun h => hhead h.1
    have hread := readMagnitude_point hwhole hzero hfraction hnil (e := none) rfl
      (by rwa [List.take_append_drop]) negative
    rw [List.take_append_drop, List.append_nil] at hread
    have htext : Layout.positional digits lead =
        digits.take (lead.toNat + 1) ++ '.' :: digits.drop (lead.toNat + 1) := by
      have hmissing : lead.toNat + 1 - digits.length = 0 := by omega
      have hrest : (digits.drop (lead.toNat + 1)).isEmpty = false := by simpa using hlong
      simp [Layout.positional, Int.not_lt.2 hlead, hmissing, hrest]
    rw [htext, hread]
    congr 2
    simp
    omega
  · -- zeros between the digits and the point
    obtain ⟨zeros, hzeros⟩ := Nat.exists_eq_add_of_le hshort
    have hplaces : (lead + 2 - digits.length).toNat = zeros + 1 := by omega
    rw [hplaces] at hfit ⊢
    refine ⟨_, -1, ⟨?_, fun negative => ?_⟩, .inr rfl⟩
    · have hexponent : lead + 1 - digits.length = (zeros : Int) := by omega
      rw [hexponent, zpow_natCast]
      push_cast
      rw [pow_succ, zpow_neg_one]
      ring
    have hwhole : IsDigits (digits ++ List.replicate zeros '0') :=
      isDigits_append hdigits.2 (fun c => isDigit_of_mem_replicate) (.inl hdigits.1)
    have hzero : ¬((digits ++ List.replicate zeros '0').head? = some '0' ∧
        digits ++ List.replicate zeros '0' ≠ ['0']) := by
      rw [List.head?_append_of_ne_nil _ hdigits.1]
      exact fun h => hhead h.1
    have hvalue : digitsValue (digits ++ List.replicate zeros '0' ++ ['0']) =
        digitsValue digits * 10 ^ (zeros + 1) := by
      have hzero : digitsValue ['0'] = 0 := rfl
      rw [digitsValue_append, digitsValue_append, digitsValue_replicate, hzero, pow_succ]
      simp [mul_assoc]
    have hread := readMagnitude_point hwhole hzero isDigits_zero hnil (e := none) rfl
      (by rwa [hvalue]) negative
    rw [hvalue, List.append_nil] at hread
    have htext : Layout.positional digits lead =
        digits ++ List.replicate zeros '0' ++ '.' :: ['0'] := by
      have hmissing : lead.toNat + 1 - digits.length = zeros := by omega
      simp [Layout.positional, Int.not_lt.2 hlead, hmissing, List.take_of_length_le hshort,
        List.drop_of_length_le hshort]
    rw [htext, hread]
    rfl

theorem readsAs_scientific (lead : Int) (hfit : digitsValue digits < Nat.pow 2 64) :
    ReadsAs (Layout.scientific digits lead)
      (digitsValue digits * 10 ^ (lead + 1 - digits.length)) (digitsValue digits)
      (lead + 1 - digits.length) := by
  refine ⟨rfl, fun negative => ?_⟩
  obtain ⟨first, rest, rfl⟩ := List.exists_cons_of_ne_nil hdigits.1
  have hwhole : IsDigits [first] := ⟨by simp, by simpa using hdigits.2 first List.mem_cons_self⟩
  have hzero : ¬([first].head? = some '0' ∧ [first] ≠ ['0']) := fun h => hhead h.1
  have hmark := readExponent_lead lead
  by_cases hrest : rest = []
  · subst hrest
    have hread := readMagnitude_mark hwhole hzero (by simp) hmark hfit negative
    have hexponent : lead + 1 - ([first].length : Int) = lead := by simp
    rw [hexponent, ← hread]
    simp [Layout.scientific]
  · have hfraction : IsDigits rest := ⟨hrest, fun c hc => hdigits.2 c (List.mem_cons_of_mem _ hc)⟩
    have hread := readMagnitude_point hwhole hzero hfraction (by simp) hmark hfit negative
    have hexponent : lead + 1 - ((first :: rest).length : Int) = lead - rest.length := by
      rw [List.length_cons]
      push_cast
      ring
    rw [hexponent]
    refine Eq.trans ?_ hread
    simp [Layout.scientific, hrest]

end Layouts

/-- Digits that are not zero, and the zeros behind them. -/
theorem significant_append_replicate (digits : List Char) :
    ∃ zeros, digits =
      (digits.reverse.dropWhile (· == '0')).reverse ++ List.replicate zeros '0' := by
  refine ⟨(digits.reverse.takeWhile (· == '0')).length, ?_⟩
  have hzeros : (digits.reverse.takeWhile (· == '0')).reverse =
      List.replicate (digits.reverse.takeWhile (· == '0')).length '0' := by
    rw [List.eq_replicate_iff]
    refine ⟨List.length_reverse, fun c hc => ?_⟩
    simpa using List.mem_takeWhile_imp (List.mem_reverse.1 hc)
  rw [← hzeros, ← List.reverse_append, List.takeWhile_append_dropWhile, List.reverse_reverse]

/-- The text of a decimal with few digits is read as a decimal of the same value. -/
theorem readsAs_decimal {l : Layout} (hl : l.plainBelow ≤ 13) {d : Decimal} (hne : d.digits ≠ 0)
    (hd : d.digits ≤ 10 ^ 9) :
    ∃ n e, ReadsAs (l.decimal d) d.value n e ∧ 0 < n ∧ n ≤ 10 ^ 14 := by
  obtain ⟨zeros, hall⟩ := significant_append_replicate (Nat.toDigits 10 d.digits)
  have hdigits := isDigits_significant hne
  have hhead := head_toDigits hne
  have hless := lt_pow_length_toDigits d.digits
  have hvalue : digitsValue (Nat.toDigits 10 d.digits) = d.digits := Nat.ofDigitChars_ten_toDigits
  unfold Layout.decimal
  simp only
  generalize ((Nat.toDigits 10 d.digits).reverse.dropWhile (· == '0')).reverse = digits at *
  rw [hall] at hhead hless hvalue ⊢
  rw [List.head?_append_of_ne_nil _ hdigits.1] at hhead
  rw [digitsValue_append, digitsValue_replicate, List.length_replicate, Nat.add_zero] at hvalue
  rw [List.length_append, List.length_replicate] at hless ⊢
  set lead := d.exponent + ((digits.length + zeros : Nat) : Int) - 1 with hlead
  have hten : 0 < 10 ^ zeros := Nat.pow_pos (by decide)
  have hpos : 0 < digitsValue digits := by
    rw [← hvalue] at hne
    exact Nat.pos_of_ne_zero (Nat.ne_zero_of_mul_ne_zero_left hne)
  have hfew : digitsValue digits ≤ 10 ^ 9 := by
    rw [← hvalue] at hd
    exact Nat.le_trans (Nat.le_mul_of_pos_right _ hten) hd
  have hsame : (digitsValue digits : Rat) * 10 ^ (lead + 1 - digits.length) = d.value := by
    have hexponent : lead + 1 - digits.length = zeros + d.exponent := by
      rw [hlead]
      push_cast
      ring
    rw [hexponent, zpow_add₀ (by norm_num), zpow_natCast, ← mul_assoc, Decimal.value, ← hvalue]
    push_cast
    rfl
  split
  · next hplain =>
    have hbound : digitsValue digits * 10 ^ (lead + 2 - digits.length).toNat ≤ 10 ^ 14 := by
      rcases Int.lt_or_le (lead + 2 - digits.length) 0 with hneg | hnonneg
      · rw [Int.toNat_of_nonpos hneg.le, pow_zero, mul_one]
        exact hfew.trans (by norm_num)
      · have hwidth : digitsValue digits < 10 ^ digits.length := by
          rw [← hvalue, pow_add] at hless
          exact Nat.lt_of_mul_lt_mul_right hless
        calc digitsValue digits * 10 ^ (lead + 2 - digits.length).toNat
            ≤ 10 ^ digits.length * 10 ^ (lead + 2 - digits.length).toNat :=
              Nat.mul_le_mul_right _ hwidth.le
          _ = 10 ^ (digits.length + (lead + 2 - digits.length).toNat) := (pow_add _ _ _).symm
          _ ≤ 10 ^ 14 := Nat.pow_le_pow_right (by decide) (by omega)
    obtain ⟨n, e, hread, hn⟩ :=
      readsAs_positional hdigits hhead (Nat.lt_of_le_of_lt hbound (by decide))
    rw [hsame] at hread
    refine ⟨n, e, hread, ?_, ?_⟩
    · rcases hn with rfl | rfl
      · exact hpos
      · exact Nat.mul_pos hpos (Nat.pow_pos (by decide))
    · rcases hn with rfl | rfl
      · exact hfew.trans (by norm_num)
      · exact hbound
  · have hread := readsAs_scientific hdigits hhead lead
      (Nat.lt_of_le_of_lt hfew (by decide))
    rw [hsame] at hread
    exact ⟨_, _, hread, hpos, hfew.trans (by norm_num)⟩

end BargeIn.Json
