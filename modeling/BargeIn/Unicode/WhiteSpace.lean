import BargeIn.Unicode.Interval

/-!
# White space

The twenty-five characters with the Unicode property White_Space.
-/

namespace BargeIn.Unicode

def whiteSpaceIntervals : List (Nat × Nat) :=
  [(0x9, 0xD), (0x20, 0x20), (0x85, 0x85), (0xA0, 0xA0), (0x1680, 0x1680), (0x2000, 0x200A),
    (0x2028, 0x2029), (0x202F, 0x202F), (0x205F, 0x205F), (0x3000, 0x3000)]

def isWhiteSpace (c : Char) : Bool := within whiteSpaceIntervals c.toNat

/-- `s` without the white space at its two ends. -/
def trimWhiteSpace (s : List Char) : List Char :=
  ((s.dropWhile isWhiteSpace).reverse.dropWhile isWhiteSpace).reverse

end BargeIn.Unicode
