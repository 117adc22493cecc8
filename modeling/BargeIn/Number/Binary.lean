/-!
# Binary floating-point numbers

A finite magnitude of a binary format is a whole number of units, the least positive magnitudes.
Magnitudes are numbered in ascending order from zero to infinity: the number, or code, of a
magnitude is what remains of its bit pattern without the sign.  Arithmetic is exact on units and
rounds once, to the nearest magnitude and to the even code at a tie; beyond the largest finite
magnitude it gives infinity.

A value is a signed magnitude or not a number; minus zero is a value of its own.
-/

namespace BargeIn.Number

/-! ## Formats and magnitudes -/

/-- A binary format: `precision` digits follow the leading one, the unit is `2 ^ -scale`, and `top`
is the code of infinity. -/
structure Format where
  precision : Nat
  scale : Nat
  top : Nat
  deriving Repr, DecidableEq

/-- Thirty-two bits: eight for the exponent, twenty-three for the fraction. -/
def binary32 : Format := ⟨23, 149, 255 * Nat.pow 2 23⟩

/-- Sixty-four bits: eleven for the exponent, fifty-two for the fraction. -/
def binary64 : Format := ⟨52, 1074, 2047 * Nat.pow 2 52⟩

/-- The quotient `num / den` rounded to the nearest natural number, to the even one at a tie. -/
def roundEven (num den : Nat) : Nat :=
  let q := num / den
  let r := num % den
  if 2 * r < den then q else if den < 2 * r then q + 1 else q + q % 2

namespace Format

def binade (F : Format) : Nat := Nat.pow 2 F.precision

def unity (F : Format) : Nat := Nat.pow 2 F.scale

def units (F : Format) (code : Nat) : Nat :=
  if code / F.binade = 0 then code
  else (F.binade + code % F.binade) * Nat.pow 2 (code / F.binade - 1)

/-- The code of the magnitude nearest to `num / den` units. -/
def round (F : Format) (num den : Nat) : Nat :=
  let shift := (num / den).log2 - F.precision
  min F.top (shift * F.binade + roundEven num (den * Nat.pow 2 shift))

theorem round_le_top (F : Format) (num den : Nat) : F.round num den ≤ F.top := Nat.min_le_left ..

end Format

/-! ## Values -/

/-- A value of a binary format. -/
inductive Binary (F : Format) where
  | nan
  | real (negative : Bool) (code : Nat) (code_le : code ≤ F.top)
  deriving Repr, DecidableEq

namespace Binary

variable {F : Format}

/-- The value nearest to plus or minus `num / den` units. -/
def ofUnits (negative : Bool) (num den : Nat) : Binary F :=
  .real negative (F.round num den) (F.round_le_top num den)

/-- The value nearest to plus or minus `n`. -/
def ofNat (negative : Bool) (n : Nat) : Binary F := ofUnits negative (n * F.unity) 1

def ofInt (i : Int) : Binary F := ofNat (decide (i < 0)) i.natAbs

def infinity (negative : Bool) : Binary F := .real negative F.top (Nat.le_refl _)

instance : Inhabited (Binary F) := ⟨ofNat false 0⟩

/-- Is `x` neither infinite nor not a number? -/
def isFinite : Binary F → Bool
  | .nan => false
  | .real _ code _ => decide (code < F.top)

def negate : Binary F → Binary F
  | .nan => .nan
  | .real negative code h => .real (!negative) code h

/-- The code with the sign of the value, so that both zeros give zero. -/
def rank (negative : Bool) (code : Nat) : Int := if negative then -code else code

/-- Is `x` less than `y`?  Nothing is less than what is not a number, nor it than anything. -/
def lt : Binary F → Binary F → Bool
  | .real s a _, .real t b _ => decide (rank s a < rank t b)
  | _, _ => false

def add : Binary F → Binary F → Binary F
  | .real s a ha, .real t b hb =>
    if a = F.top then
      if b = F.top ∧ s ≠ t then .nan else .real s a ha
    else if b = F.top then .real t b hb
    else
      let sum := rank s (F.units a) + rank t (F.units b)
      ofUnits (if sum = 0 then s && t else decide (sum < 0)) sum.natAbs 1
  | _, _ => .nan

def mul : Binary F → Binary F → Binary F
  | .real s a _, .real t b _ =>
    if a = F.top then if b = 0 then .nan else infinity (s != t)
    else if b = F.top then if a = 0 then .nan else infinity (s != t)
    else ofUnits (s != t) (F.units a * F.units b) (F.unity)
  | _, _ => .nan

def div : Binary F → Binary F → Binary F
  | .real s a _, .real t b _ =>
    if a = F.top then if b = F.top then .nan else infinity (s != t)
    else if b = F.top then ofUnits (s != t) 0 1
    else if b = 0 then if a = 0 then .nan else infinity (s != t)
    else ofUnits (s != t) (F.units a * F.unity) (F.units b)
  | _, _ => .nan

/-- The nearest value of another format. -/
def convert {G : Format} : Binary F → Binary G
  | .nan => .nan
  | .real s a _ =>
    if a = F.top then infinity s else ofUnits s (F.units a * G.unity) (F.unity)

/-- The nearest value to `x` that is neither less than `low` nor greater than `high`. -/
def clamp (x low high : Binary F) : Binary F :=
  if x.lt low then low else if high.lt x then high else x

end Binary

end BargeIn.Number
