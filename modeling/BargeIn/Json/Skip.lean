import BargeIn.Json.Reader

/-!
# Passing over JSON values

The value of a member that nobody asked for is passed over.  Its grammar is checked, but not the
range of its numbers, the pairing of its surrogates or the depth of its brackets.
-/

namespace BargeIn.Json

open BargeIn.Number

/-- The brackets that stand open, innermost first. -/
inductive Bracket where
  | array
  | object
  deriving Repr, DecidableEq

def skipExponent (s : List Char) : Except Fault (List Char) :=
  match s with
  | [] => .ok []
  | c :: t =>
    if c = 'e' ∨ c = 'E' then
      let (digits, rest) := takeDigits (takeSign t).2
      if digits = [] then .error .malformed else .ok rest
    else .ok (c :: t)

def skipMagnitude (s : List Char) : Except Fault (List Char) :=
  let (whole, s) := takeDigits s
  if whole = [] ∨ (whole.head? = some '0' ∧ whole ≠ ['0']) then .error .malformed
  else
    match s with
    | '.' :: t =>
      let (fraction, t) := takeDigits t
      if fraction = [] then .error .malformed else skipExponent t
    | t => skipExponent t

def skipString (s : List Char) : Except Fault (List Char) := do
  let (_, rest) ← readStringFrom false .plain [] s
  return rest

def skipName (s : List Char) : Except Fault (List Char) :=
  match dropBlanks s with
  | [] => .error .truncated
  | c :: rest => if c = '"' then do readColon (← skipString rest) else .error .malformed

/-- Passes over a value without brackets, of which `c` is the first character. -/
def skipAtom (c : Char) (rest : List Char) : Except Fault (List Char) :=
  if c = 'n' then readWord "ull".toList rest
  else if c = 't' then readWord "rue".toList rest
  else if c = 'f' then readWord "alse".toList rest
  else if c = '"' then skipString rest
  else if c = '-' then skipMagnitude rest
  else if c.isDigit then skipMagnitude (c :: rest)
  else .error .malformed

/-- What stands next: a value, or whatever follows a value. -/
inductive Phase where
  | value
  | next
  deriving Repr, DecidableEq

/-- Takes one step behind a value: closes the innermost bracket, or goes on to the next value. -/
def stepNext (stack : List Bracket) (s : List Char) :
    Except Fault (Phase × List Bracket × List Char) :=
  match stack, dropBlanks s with
  | [], s => .ok (.next, [], s)
  | _, [] => .error .truncated
  | .array :: outer, c :: rest =>
    if c = ']' then .ok (.next, outer, rest)
    else if c = ',' then .ok (.value, .array :: outer, rest)
    else .error .malformed
  | .object :: outer, c :: rest =>
    if c = '}' then .ok (.next, outer, rest)
    else if c = ',' then do return (.value, .object :: outer, ← skipName rest)
    else .error .malformed

/-- Takes one step at a value: passes over it, or into its bracket. -/
def stepValue (stack : List Bracket) (s : List Char) :
    Except Fault (Phase × List Bracket × List Char) :=
  match dropBlanks s with
  | [] => .error .truncated
  | c :: rest =>
    if c = '[' then
      match dropBlanks rest with
      | [] => .error .truncated
      | d :: inner =>
        if d = ']' then .ok (.next, stack, inner) else .ok (.value, .array :: stack, d :: inner)
    else if c = '{' then
      match dropBlanks rest with
      | [] => .error .truncated
      | d :: inner =>
        if d = '}' then .ok (.next, stack, inner)
        else do return (.value, .object :: stack, ← skipName (d :: inner))
    else do return (.next, stack, ← skipAtom c rest)

/-- Takes steps along the clock until no bracket stands open. -/
def skipFrom : (clock : List Char) → Phase → List Bracket → List Char → Except Fault (List Char)
  | _, .next, [], s => .ok s
  | [], _, _, _ => .error .truncated
  | _ :: clock, .next, stack, s => do
    let (phase, stack, rest) ← stepNext stack s
    skipFrom clock phase stack rest
  | _ :: clock, .value, stack, s => do
    let (phase, stack, rest) ← stepValue stack s
    skipFrom clock phase stack rest

def skipValue (s : List Char) : Except Fault (List Char) := skipFrom s .value [] s

end BargeIn.Json
