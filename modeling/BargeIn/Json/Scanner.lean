import BargeIn.Json.Value
import BargeIn.Number.Decimal

/-!
# The small parts of a JSON text

A reader takes characters off the front of a text and answers with a value and the rest, or with
the first fault that it meets.  Faults are of three kinds: the text is malformed, it ends too
early, or it is well formed and holds a value of another kind than the one asked for.

Here are the readers of blanks, literal words, strings and numbers.  A number is an integer when
it has neither fraction nor exponent and fits into sixty-four bits, with or without sign; any other
number becomes a double, by one multiplication with or division by a power of ten after its digits,
so that it need not be the nearest one.
-/

namespace BargeIn.Json

open BargeIn.Number

/-- Why a text does not give a value.  It is malformed by a wrong character, a number out of range,
brackets too deep or text behind the value; it is truncated if it ends inside a value; it is
mismatched by a value of the wrong kind, a known name given twice or missing, or an unknown code. -/
inductive Fault where
  | malformed
  | truncated
  | mismatched
  deriving Repr, DecidableEq

/-- Takes a value off the front of a text. -/
abbrev Reader (α : Type) := List Char → Except Fault (α × List Char)

/-! ## Blanks and words -/

/-- The four characters that may stand between the parts of a value. -/
def isBlank (c : Char) : Bool := c == ' ' || c == '\n' || c == '\t' || c == '\r'

/-- The text behind its leading blanks. -/
def dropBlanks (s : List Char) : List Char := s.dropWhile isBlank

def readWord : (word : List Char) → List Char → Except Fault (List Char)
  | [], s => .ok s
  | _ :: _, [] => .error .truncated
  | w :: word, c :: s => if c = w then readWord word s else .error .malformed

def readColon (s : List Char) : Except Fault (List Char) :=
  match dropBlanks s with
  | [] => .error .truncated
  | c :: rest => if c = ':' then .ok rest else .error .malformed

/-! ## Strings -/

def hexDigit? (c : Char) : Option Nat :=
  if '0' ≤ c ∧ c ≤ '9' then some (c.toNat - 48)
  else if 'a' ≤ c ∧ c ≤ 'f' then some (c.toNat - 87)
  else if 'A' ≤ c ∧ c ≤ 'F' then some (c.toNat - 55)
  else none

/-- The character that a letter behind a backslash stands for. -/
def unescapeLetter : Char → Option Char
  | '"' => some '"'
  | '\\' => some '\\'
  | '/' => some '/'
  | 'b' => some '\x08'
  | 'f' => some '\x0c'
  | 'n' => some '\n'
  | 'r' => some '\r'
  | 't' => some '\t'
  | _ => none

/-- Does the text end within the next four bytes? -/
def endsWithinFour (s : List Char) : Bool := decide ((String.ofList (s.take 4)).utf8ByteSize < 4)

/-- Where a reader of a string stands: between characters, behind a backslash, inside four
hexadecimal digits of which `left` are owed, or behind the first half of a pair, before or behind
the backslash of the second.  `high` is the first half. -/
inductive StringState where
  | plain
  | escape
  | hex (high : Option Nat) (value left : Nat)
  | pairBackslash (high : Nat)
  | pairLetter (high : Nat)
  deriving Repr, DecidableEq

/-- The character or state that four hexadecimal digits lead to.  A string that is kept must pair
its surrogates; in one that is passed over they are not looked at. -/
def hexEnd (kept : Bool) (high : Option Nat) (n : Nat) : Except Fault (List Char × StringState) :=
  if !kept then .ok ([], .plain)
  else
    match high with
    | none =>
      if 0xDC00 ≤ n ∧ n ≤ 0xDFFF then .error .malformed
      else if 0xD800 ≤ n ∧ n ≤ 0xDBFF then .ok ([], .pairBackslash n)
      else .ok ([Char.ofNat n], .plain)
    | some h =>
      if 0xDC00 ≤ n ∧ n ≤ 0xDFFF then
        .ok ([Char.ofNat (0x10000 + (h - 0xD800) * 0x400 + (n - 0xDC00))], .plain)
      else .error .malformed

/-- Starts on the four digits of a number, which must not be cut off by the end of the text. -/
def hexStart (high : Option Nat) (s : List Char) : Except Fault StringState :=
  if endsWithinFour s then .error .truncated else .ok (.hex high 0 4)

/-- Reads on in a string; `done` holds what has been read, last character first. -/
def readStringFrom (kept : Bool) : StringState → (done : List Char) → Reader (List Char)
  | _, _, [] => .error .truncated
  | .plain, done, c :: s =>
    if c = '"' then .ok (done.reverse, s)
    else if c = '\\' then readStringFrom kept .escape done s
    else if c.toNat < 32 then .error .malformed
    else readStringFrom kept .plain (c :: done) s
  | .escape, done, c :: s =>
    if c = 'u' then
      match hexStart none s with
      | .error f => .error f
      | .ok state => readStringFrom kept state done s
    else
      match unescapeLetter c with
      | some d => readStringFrom kept .plain (d :: done) s
      | none => .error .malformed
  | .hex high value left, done, c :: s =>
    match hexDigit? c with
    | none => .error .malformed
    | some d =>
      if left ≤ 1 then
        match hexEnd kept high (16 * value + d) with
        | .error f => .error f
        | .ok (cs, state) => readStringFrom kept state (cs ++ done) s
      else readStringFrom kept (.hex high (16 * value + d) (left - 1)) done s
  | .pairBackslash high, done, c :: s =>
    if c = '\\' then readStringFrom kept (.pairLetter high) done s else .error .malformed
  | .pairLetter high, done, c :: s =>
    if c = 'u' then
      match hexStart (some high) s with
      | .error f => .error f
      | .ok state => readStringFrom kept state done s
    else .error .malformed

def readString (s : List Char) : Except Fault (String × List Char) := do
  let (cs, rest) ← readStringFrom true .plain [] s
  return (String.ofList cs, rest)

/-! ## Numbers -/

/-- Appends decimal digits to `n` as long as it fits into sixty-four bits; also the digits left. -/
def appendFitting (n : Nat) : List Char → Nat × List Char
  | [] => (n, [])
  | c :: digits =>
    if 10 * n + digitValue c < Nat.pow 2 64 then appendFitting (10 * n + digitValue c) digits
    else (n, c :: digits)

/-- The double that is read for `x * 10 ^ e`, at most 308 places in one step; nothing if it is out
of range.  Zero is reached before `steps` run out. -/
def shiftDecimal (x : Binary binary64) : (steps : Nat) → (e : Int) → Option (Binary binary64)
  | 0, _ => some x
  | steps + 1, e =>
    if e.natAbs ≤ 308 then
      if 0 ≤ e then
        let y := x.mul (Binary.ofNat false (Nat.pow 10 e.toNat))
        if y.isFinite then some y else none
      else some (x.div (Binary.ofNat false (Nat.pow 10 e.natAbs)))
    else if x = Binary.ofNat false 0 then some x
    else if 0 ≤ e then none
    else shiftDecimal (x.div (Binary.ofNat false (Nat.pow 10 308))) steps (e + 308)

def doubleOf (negative : Bool) (n : Nat) (e : Int) : Except Fault Json.Numeral :=
  match shiftDecimal (Binary.ofNat false n) (e.natAbs / 308 + 1) e with
  | none => .error .malformed
  | some x => .ok (.double (if negative then x.negate else x))

def integerOf (negative : Bool) (n : Nat) : Json.Numeral :=
  if negative then
    if 0 < n ∧ n ≤ Nat.pow 2 63 then .integer (-n) else .double (Binary.ofNat true n)
  else .integer n

/-- Reads the exponent of a number, if there is one; `none` means that the number has no mark. -/
def readExponent (s : List Char) : Except Fault (Option Int × List Char) :=
  match s with
  | [] => .ok (none, [])
  | c :: t =>
    if c = 'e' ∨ c = 'E' then
      let (negative, t) := takeSign t
      let (digits, rest) := takeDigits t
      if digits = [] then .error (if t = [] then .truncated else .malformed)
      else .ok (some (if negative then -(digitsValue digits : Int) else digitsValue digits), rest)
    else .ok (none, c :: t)

/-- Reads an unsigned number; `negative` tells the sign that stood before it. -/
def readMagnitude (negative : Bool) (s : List Char) : Except Fault (Json.Numeral × List Char) := do
  let (whole, s) := takeDigits s
  if whole = [] then .error (if s = [] then .truncated else .malformed)
  else if whole.head? = some '0' ∧ whole ≠ ['0'] then .error .malformed
  else
    let (n, excess) := appendFitting 0 whole
    match s with
    | '.' :: t =>
      let (fraction, t) := takeDigits t
      if fraction = [] then .error (if t = [] then .truncated else .malformed)
      else
        let (m, left) := appendFitting n fraction
        let places : Int := excess.length - (fraction.length - left.length)
        let (e, rest) ← readExponent t
        return (← doubleOf negative m (places + e.getD 0), rest)
    | t =>
      let (e, rest) ← readExponent t
      match e, excess with
      | none, [] => return (integerOf negative n, rest)
      | e, excess => return (← doubleOf negative n (excess.length + e.getD 0), rest)

def startsNumber (c : Char) : Bool := c == '-' || c.isDigit

def readNumber : Reader Json.Numeral
  | '-' :: s => readMagnitude true s
  | s => readMagnitude false s

/-! ## Lemmas -/

/-- Two steps give a result when the first one does and the second one goes on from there. -/
theorem bind_eq_ok {ε α β : Type} {x : Except ε α} {f : α → Except ε β} {b : β} :
    (x >>= f) = .ok b ↔ ∃ a, x = .ok a ∧ f a = .ok b := by
  cases x with
  | error e => simp [bind, Except.bind]
  | ok a => simp [bind, Except.bind]

theorem ok_bind {ε α β : Type} (a : α) (f : α → Except ε β) : (Except.ok a >>= f) = f a := rfl

end BargeIn.Json
