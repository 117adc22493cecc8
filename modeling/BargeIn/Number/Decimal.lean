import BargeIn.Number.Shortest

/-!
# Reading a decimal

`Binary.ofText?` reads a number that a person typed: an optional sign, then digits with at most one
point and at least one digit, then perhaps an exponent; or one of the words `inf`, `infinity` and
`nan` in any case.  The value is the one nearest to the exact decimal.
-/

namespace BargeIn.Number

def digitValue (c : Char) : Nat := c.toNat - '0'.toNat

/-- The number that a row of decimal digits spells. -/
def digitsValue (digits : List Char) : Nat := Nat.ofDigitChars 10 digits 0

def takeSign : List Char → Bool × List Char
  | '-' :: s => (true, s)
  | '+' :: s => (false, s)
  | s => (false, s)

def takeDigits (s : List Char) : List Char × List Char :=
  (s.takeWhile Char.isDigit, s.dropWhile Char.isDigit)

/-- A whole exponent behind its mark; no mark means zero. -/
def exponentOf? : List Char → Option Int
  | [] => some 0
  | mark :: s =>
    let (negative, t) := takeSign s
    let (digits, rest) := takeDigits t
    if (mark = 'e' ∨ mark = 'E') ∧ digits ≠ [] ∧ rest = [] then
      some (if negative then -(digitsValue digits : Int) else digitsValue digits)
    else none

/-- An unsigned decimal. -/
def Decimal.ofText? (s : List Char) : Option Decimal :=
  let (whole, rest) := takeDigits s
  let (fraction, rest) := match rest with
    | '.' :: t => takeDigits t
    | t => ([], t)
  if whole = [] ∧ fraction = [] then none
  else (exponentOf? rest).map fun e => ⟨digitsValue (whole ++ fraction), e - fraction.length⟩

namespace Binary

variable {F : Format}

/-- The value nearest to a decimal.  An exponent far outside the range of the format is replaced by
one that still gives infinity or zero. -/
def ofDecimal (negative : Bool) (d : Decimal) : Binary F :=
  let width := (Nat.toDigits 10 d.digits).length
  let k := max (-(F.scale + width : Int)) (min F.scale d.exponent)
  ofUnits negative (d.digits * F.unity * Nat.pow 10 k.toNat) (Nat.pow 10 (-k).toNat)

/-- The number that a text spells. -/
def ofText? (s : List Char) : Option (Binary F) :=
  let (negative, t) := takeSign s
  let word := String.ofList (t.map Char.toLower)
  if word = "inf" ∨ word = "infinity" then some (infinity negative)
  else if word = "nan" then some .nan
  else (Decimal.ofText? t).map (ofDecimal negative)

end Binary

end BargeIn.Number
