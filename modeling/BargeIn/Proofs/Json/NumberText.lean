import Mathlib
import BargeIn.Json.Printer
import BargeIn.Proofs.Json.Numbers
import BargeIn.Proofs.Number.Shortest

/-!
# Numbers are written as numbers

Integers and finite numbers of either width are written in the form of a number
(`isNumber_renderNumber`): the shortest decimal of a magnitude that is not zero has a digit that is
not zero, and a layout puts digits on either side of a point and behind an exponent mark.
-/

namespace BargeIn.Json

open BargeIn.Number

/-! ## Layouts -/

theorem isDigits_zero : IsDigits ['0'] := by simp [IsDigits]

theorem isDigits_toDigits (n : Nat) : IsDigits (Nat.toDigits 10 n) :=
  ⟨Nat.toDigits_ne_nil, fun _ hc => Nat.isDigit_of_mem_toDigits (by decide) (by decide) hc⟩

theorem isDigits_append {s t : List Char} (hs : ∀ c ∈ s, c.isDigit = true)
    (ht : ∀ c ∈ t, c.isDigit = true) (hne : s ≠ [] ∨ t ≠ []) : IsDigits (s ++ t) := by
  refine ⟨by simpa [imp_iff_not_or] using hne, fun c hc => ?_⟩
  exact (List.mem_append.1 hc).elim (hs c) (ht c)

theorem isDigit_of_mem_replicate {n : Nat} {c : Char} (h : c ∈ List.replicate n '0') :
    c.isDigit = true := by
  rw [List.eq_of_mem_replicate h]
  rfl

theorem isMagnitude_positional {digits : List Char} (h : IsDigits digits) (lead : Int) :
    IsMagnitude (Layout.positional digits lead) := by
  unfold Layout.positional
  by_cases hlead : lead < 0
  · have hplaces := isDigits_append (fun c => isDigit_of_mem_replicate (n := (-lead - 1).toNat)) h.2
      (.inr h.1)
    exact ⟨['0'], _, [], isDigits_zero, .inr ⟨_, hplaces, rfl⟩, .inl rfl, by simp [hlead]⟩
  · simp only [if_neg hlead]
    have htake := isDigits_append (s := digits.take (lead.toNat + 1))
      (fun c hc => h.2 c (List.mem_of_mem_take hc))
      (fun c => isDigit_of_mem_replicate (n := lead.toNat + 1 - digits.length))
      (.inl (by simpa using h.1))
    refine ⟨_, _, [], htake, .inr ⟨_, ?_, rfl⟩, .inl rfl, by rw [List.append_nil]⟩
    split
    · exact isDigits_zero
    · next hne =>
      exact ⟨by simpa using hne, fun c hc => h.2 c (List.mem_of_mem_drop hc)⟩

theorem isMagnitude_scientific {digits : List Char} (h : IsDigits digits) (lead : Int) :
    IsMagnitude (Layout.scientific digits lead) := by
  unfold Layout.scientific
  refine ⟨digits.take 1, if (digits.drop 1).isEmpty then [] else '.' :: digits.drop 1,
    'e' :: (if lead < 0 then '-' else '+') :: Nat.toDigits 10 lead.natAbs, ?_, ?_, ?_, by simp⟩
  · exact ⟨by simpa using h.1, fun c hc => h.2 c (List.mem_of_mem_take hc)⟩
  · split
    · exact .inl rfl
    · next hne =>
      exact .inr ⟨_, ⟨by simpa using hne, fun c hc => h.2 c (List.mem_of_mem_drop hc)⟩, rfl⟩
  · exact .inr ⟨_, _, by split <;> simp, isDigits_toDigits _, rfl⟩

/-- A number that is not zero has a digit before its last zeros. -/
theorem isDigits_significant {n : Nat} (hn : n ≠ 0) :
    IsDigits ((Nat.toDigits 10 n).reverse.dropWhile (· == '0')).reverse := by
  constructor
  · intro hempty
    rw [List.reverse_eq_nil_iff, List.dropWhile_eq_nil_iff] at hempty
    have hzeros : Nat.toDigits 10 n = List.replicate (Nat.toDigits 10 n).length '0' :=
      List.eq_replicate_of_mem fun c hc => by simpa using hempty c (List.mem_reverse.2 hc)
    have hvalue := Nat.ofDigitChars_ten_toDigits (n := n)
    rw [hzeros, Nat.ofDigitChars_replicate_zero] at hvalue
    exact hn (by simpa using hvalue.symm)
  · intro c hc
    have hmem := (List.dropWhile_sublist _).subset (List.mem_reverse.1 hc)
    exact (isDigits_toDigits n).2 c (List.mem_reverse.1 hmem)

theorem isMagnitude_decimal (l : Layout) {d : Decimal} (hd : d.digits ≠ 0) :
    IsMagnitude (l.decimal d) := by
  unfold Layout.decimal
  simp only
  split
  · exact isMagnitude_positional (isDigits_significant hd) _
  · exact isMagnitude_scientific (isDigits_significant hd) _

theorem isNumber_sign {t : List Char} (ht : IsMagnitude t) (negative : Prop) [Decidable negative] :
    IsNumber ((if negative then ['-'] else []) ++ t) := by
  refine ⟨t, ht, ?_⟩
  split
  · exact .inr rfl
  · exact .inl rfl

theorem isNumber_render {F : Format} (l : Layout) {x : Binary F} (hx : x.isFinite = true) :
    IsNumber (l.render x) := by
  cases x with
  | nan => cases hx
  | real negative code hcode =>
    refine isNumber_sign ?_ (negative = true)
    split
    · exact ⟨['0'], _, [], isDigits_zero, .inr ⟨_, isDigits_zero, rfl⟩, .inl rfl, rfl⟩
    · next hne => exact isMagnitude_decimal l (Format.shortestDecimal_digits_ne_zero hne)

/-- Has the number a form of its own in JSON? -/
def Numeral.isFinite : Json.Numeral → Bool
  | .integer _ => true
  | .single x => x.isFinite
  | .double x => x.isFinite

/-- A number is written in the form of a number. -/
theorem isNumber_renderNumber {n : Json.Numeral} (hn : n.isFinite = true) :
    IsNumber (renderNumber n) := by
  cases n with
  | integer i =>
    refine isNumber_sign ⟨_, [], [], isDigits_toDigits i.natAbs, .inl rfl, .inl rfl, ?_⟩ (i < 0)
    rw [List.append_nil, List.append_nil]
  | single x =>
    have hx : x.isFinite = true := hn
    simpa only [renderNumber, if_pos hx] using isNumber_render singleLayout hx
  | double x =>
    have hx : x.isFinite = true := hn
    simpa only [renderNumber, if_pos hx] using isNumber_render doubleLayout hx

/-- A number without a form of its own is written as null. -/
theorem renderNumber_of_not_isFinite {n : Json.Numeral} (hn : n.isFinite = false) :
    renderNumber n = "null".toList := by
  cases n with
  | integer i => cases hn
  | single x => exact if_neg (by simpa [Numeral.isFinite] using hn)
  | double x => exact if_neg (by simpa [Numeral.isFinite] using hn)

end BargeIn.Json
