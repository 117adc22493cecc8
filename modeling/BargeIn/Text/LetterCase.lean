import BargeIn.Unicode.Cased
import BargeIn.Unicode.Lowercase

/-!
# Lower case of a word

A word is lower-cased character by character; only a capital sigma looks at its neighbours.  It
becomes a final sigma when a cased character comes before it and none comes after it, where
case-ignorable characters are passed over on both sides.
-/

namespace BargeIn.Text

open BargeIn.Unicode

/-- Does a cased character come first, once the case-ignorable ones are passed over? -/
def startsCased (s : List Char) : Bool :=
  match s.dropWhile isCaseIgnorable with
  | [] => false
  | c :: _ => isCased c

/-- The lower case of a capital sigma between `before`, read backwards from it, and `after`. -/
def lowerSigma (before after : List Char) : Char :=
  if startsCased before && !startsCased after then 'ς' else 'σ'

/-- The lower case of `s` behind the characters `before`, which are read backwards. -/
def lowerBehind (before : List Char) : List Char → List Char
  | [] => []
  | c :: rest =>
    (if c = 'Σ' then [lowerSigma before rest] else lowercase c) ++ lowerBehind (c :: before) rest

def lowerWord (s : List Char) : List Char := lowerBehind [] s

end BargeIn.Text
