import BargeIn.Json.Value

/-!
# Writing JSON

`render` writes a value without any blank; `pretty` puts every item and member on a line of its
own, two spaces deeper than its bracket, and closes empty brackets at once.  Inside strings the
quote, the backslash and the control characters are escaped and nothing else is.  A number with a
binary fraction is written with the fewest digits that stand for it, positionally in a middle range
of exponents; one that is not finite has no JSON form and is written `null`.
-/

namespace BargeIn.Json

open BargeIn.Number

/-- Single numbers are positional from a millionth to below ten million million. -/
def singleLayout : Layout := ⟨-6, 13⟩

/-- Double numbers are positional from a hundred-thousandth to below ten thousand million
million. -/
def doubleLayout : Layout := ⟨-5, 16⟩

def renderNumber : Json.Numeral → List Char
  | .integer i => (if i < 0 then ['-'] else []) ++ Nat.toDigits 10 i.natAbs
  | .single x => if x.isFinite then singleLayout.render x else "null".toList
  | .double x => if x.isFinite then doubleLayout.render x else "null".toList

/-- The letter that stands for a character behind a backslash. -/
def escapeLetter : Char → Option Char
  | '"' => some '"'
  | '\\' => some '\\'
  | '\x08' => some 'b'
  | '\x0c' => some 'f'
  | '\n' => some 'n'
  | '\r' => some 'r'
  | '\t' => some 't'
  | _ => none

/-- A character as it stands inside a string. -/
def renderChar (c : Char) : List Char :=
  match escapeLetter c with
  | some l => ['\\', l]
  | none =>
    if c.toNat < 32 then
      ['\\', 'u', '0', '0', Nat.digitChar (c.toNat / 16), Nat.digitChar (c.toNat % 16)]
    else [c]

def renderString (s : String) : List Char := '"' :: (s.toList.flatMap renderChar ++ ['"'])

def renderBool (b : Bool) : List Char := if b then "true".toList else "false".toList

mutual

/-- The text of a value, without blanks. -/
def render : Json → List Char
  | .null => "null".toList
  | .bool b => renderBool b
  | .number n => renderNumber n
  | .string s => renderString s
  | .array items => '[' :: (renderItems items ++ [']'])
  | .object members => '{' :: (renderMembers members ++ ['}'])

def renderItems : List Json → List Char
  | [] => []
  | [j] => render j
  | j :: rest => render j ++ ',' :: renderItems rest

def renderMembers : List (String × Json) → List Char
  | [] => []
  | [(name, j)] => renderString name ++ ':' :: render j
  | (name, j) :: rest => renderString name ++ ':' :: render j ++ ',' :: renderMembers rest

end

/-- A line break and the blanks in front of what stands `depth` brackets deep. -/
def lineBreak (depth : Nat) : List Char := '\n' :: List.replicate (2 * depth) ' '

mutual

/-- The text of a value inside `depth` brackets, laid out in lines. -/
def prettyAt (depth : Nat) : Json → List Char
  | .null => "null".toList
  | .bool b => renderBool b
  | .number n => renderNumber n
  | .string s => renderString s
  | .array [] => ['[', ']']
  | .array items => '[' :: (prettyItems (depth + 1) items ++ lineBreak depth ++ [']'])
  | .object [] => ['{', '}']
  | .object members => '{' :: (prettyMembers (depth + 1) members ++ lineBreak depth ++ ['}'])

def prettyItems (depth : Nat) : List Json → List Char
  | [] => []
  | [j] => lineBreak depth ++ prettyAt depth j
  | j :: rest => lineBreak depth ++ prettyAt depth j ++ ',' :: prettyItems depth rest

def prettyMembers (depth : Nat) : List (String × Json) → List Char
  | [] => []
  | [(name, j)] => lineBreak depth ++ renderString name ++ ':' :: ' ' :: prettyAt depth j
  | (name, j) :: rest =>
    lineBreak depth ++ renderString name ++ ':' :: ' ' :: prettyAt depth j ++
      ',' :: prettyMembers depth rest

end

def compact (j : Json) : String := String.ofList j.render

def pretty (j : Json) : String := String.ofList (j.prettyAt 0)

end BargeIn.Json
