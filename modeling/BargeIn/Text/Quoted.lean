import BargeIn.Unicode.Unprintable

/-!
# Quoted text in messages

A message quotes a text between double quotes.  The quote and the backslash, and four control
characters that have a letter of their own, stand behind a backslash; every other character that
cannot be shown by itself is written by its number, as `\u{ad}`.
-/

namespace BargeIn.Text

open BargeIn.Unicode

/-- The letter that stands for a character behind a backslash. -/
def escapeLetter : Char → Option Char
  | '\x00' => some '0'
  | '\t' => some 't'
  | '\n' => some 'n'
  | '\r' => some 'r'
  | '"' => some '"'
  | '\\' => some '\\'
  | _ => none

/-- One character as it stands inside the quotes. -/
def quoteChar (c : Char) : List Char :=
  match escapeLetter c with
  | some l => ['\\', l]
  | none =>
    if isExtendingMark c || isUnprintable c then
      ['\\', 'u', '\x7b'] ++ Nat.toDigits 16 c.toNat ++ ['\x7d']
    else [c]

def quoted (s : String) : String :=
  String.ofList ('"' :: (s.toList.flatMap quoteChar ++ ['"']))

end BargeIn.Text
