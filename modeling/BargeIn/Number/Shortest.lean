import BargeIn.Number.Binary

/-!
# The shortest decimal of a binary number

A decimal stands for the magnitude that it is rounded to.  The decimals that stand for a magnitude
lie between the middles of the gaps to its two neighbours, and the middles themselves count when
the code is even.  `shortestDecimal` looks for one on the grids of one, two, three digits and so
on; on each grid only the two points around the magnitude can be nearest.

`Layout` says how the digits are written: positionally between two exponents, otherwise with an
exponent mark.
-/

namespace BargeIn.Number

/-! ## Digits -/

/-- `digits * 10 ^ exponent`. -/
structure Decimal where
  digits : Nat
  exponent : Int
  deriving Repr, DecidableEq

namespace Format

/-- Does `d` stand for the magnitude of `code`? -/
def standsFor (F : Format) (d : Decimal) (code : Nat) : Bool :=
  let point := d.digits * Nat.pow 10 d.exponent.toNat * (2 * F.unity)
  let lower := (F.units (code - 1) + F.units code) * Nat.pow 10 (-d.exponent).toNat
  let upper := (F.units code + F.units (code + 1)) * Nat.pow 10 (-d.exponent).toNat
  if code % 2 = 0 then decide (lower ≤ point ∧ point ≤ upper)
  else decide (lower < point ∧ point < upper)

/-- The exponent of the leading decimal digit of `num / den`, both positive. -/
def leadingExponent (num den : Nat) : Int :=
  if den ≤ num then ((Nat.toDigits 10 (num / den)).length : Int) - 1
  else -((Nat.toDigits 10 ((den - 1) / num)).length : Int)

/-- On the grid of the multiples of `10 ^ k`, the nearest point that stands for `code`; the even
one of two that are equally near. -/
def nearestOn (F : Format) (code : Nat) (k : Int) : Option Decimal :=
  let num := F.units code * Nat.pow 10 (-k).toNat
  let den := F.unity * Nat.pow 10 k.toNat
  let below : Decimal := ⟨num / den, k⟩
  let above : Decimal := ⟨num / den + 1, k⟩
  match F.standsFor below code, F.standsFor above code with
  | true, true => some ⟨roundEven num den, k⟩
  | true, false => some below
  | false, true => some above
  | false, false => none

/-- The first hit on the grids of `10 ^ k`, `10 ^ (k - 1)`, …; if `steps` of them have none, the
exact decimal of the magnitude. -/
def searchGrids (F : Format) (code : Nat) : (steps : Nat) → (k : Int) → Decimal
  | 0, _ => ⟨F.units code * Nat.pow 5 F.scale, -F.scale⟩
  | steps + 1, k =>
    match F.nearestOn code k with
    | some d => d
    | none => F.searchGrids code steps (k - 1)

/-- The decimal with the fewest digits that stands for the magnitude of `code`, not zero. -/
def shortestDecimal (F : Format) (code : Nat) : Decimal :=
  F.searchGrids code (F.precision + 1) (leadingExponent (F.units code) F.unity)

end Format

/-! ## Layout -/

/-- Numbers whose leading digit has an exponent from `plainFrom` to below `plainBelow` are written
positionally. -/
structure Layout where
  plainFrom : Int
  plainBelow : Int
  deriving Repr, DecidableEq

namespace Layout

/-- Digits with the point behind the digit of exponent zero; the first digit has the exponent
`lead`. -/
def positional (digits : List Char) (lead : Int) : List Char :=
  if lead < 0 then ['0', '.'] ++ List.replicate (-lead - 1).toNat '0' ++ digits
  else
    let whole := lead.toNat + 1
    let fraction := digits.drop whole
    digits.take whole ++ List.replicate (whole - digits.length) '0' ++
      '.' :: (if fraction.isEmpty then ['0'] else fraction)

/-- Digits with the point behind the first and the exponent of the first after a mark. -/
def scientific (digits : List Char) (lead : Int) : List Char :=
  digits.take 1 ++ (if (digits.drop 1).isEmpty then [] else '.' :: digits.drop 1) ++
    ['e', if lead < 0 then '-' else '+'] ++ Nat.toDigits 10 lead.natAbs

def decimal (l : Layout) (d : Decimal) : List Char :=
  let all := Nat.toDigits 10 d.digits
  let lead := d.exponent + all.length - 1
  let digits := (all.reverse.dropWhile (· == '0')).reverse
  if l.plainFrom ≤ lead ∧ lead < l.plainBelow then positional digits lead else scientific digits lead

def render {F : Format} (l : Layout) : Binary F → List Char
  | .nan => []
  | .real negative code _ =>
    (if negative then ['-'] else []) ++
      if code = 0 then ['0', '.', '0'] else l.decimal (F.shortestDecimal code)

end Layout

end BargeIn.Number
