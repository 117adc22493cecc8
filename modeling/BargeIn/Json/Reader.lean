import BargeIn.Json.Scanner

/-!
# Reading JSON values

`readValue` reads a value of any kind.  Brackets may be nested as deep as the reader is told.

Arrays and objects are read by loops that run along a clock, a text at least as long as the one
that is read.  Every turn takes a character of the text, so the clock never stops first.
-/

namespace BargeIn.Json

/-! ## Items and names -/

/-- Looks for the next item of an array, behind its bracket or the item before: the text of the
item, or that behind the closing bracket. -/
def nextItem (first : Bool) (s : List Char) : Except Fault (Bool × List Char) :=
  match dropBlanks s with
  | [] => .error .truncated
  | c :: rest =>
    if c = ']' then .ok (false, rest)
    else if first then .ok (true, c :: rest)
    else if c = ',' then
      match dropBlanks rest with
      | [] => .error .truncated
      | d :: rest => if d = ']' then .error .malformed else .ok (true, d :: rest)
    else .error .malformed

def readName (s : List Char) : Except Fault (String × List Char) :=
  match dropBlanks s with
  | [] => .error .truncated
  | c :: rest => if c = '"' then readString rest else .error .malformed

/-- Reads the next name of an object, behind its brace or the member before; no name at the closing
brace. -/
def nextName (first : Bool) (s : List Char) : Except Fault (Option String × List Char) :=
  match dropBlanks s with
  | [] => .error .truncated
  | c :: rest =>
    if c = '}' then .ok (none, rest)
    else if first || c == ',' then do
      let (name, rest) ← readName (if first then c :: rest else rest)
      return (some name, rest)
    else .error .malformed

/-- Reads the items of an array; `done` holds those before, last one first. -/
def readItems {α : Type} (item : Reader α) : (clock : List Char) → (done : List α) → Reader (List α)
  | [], _, _ => .error .truncated
  | _ :: clock, done, s => do
    match ← nextItem done.isEmpty s with
    | (false, rest) => return (done.reverse, rest)
    | (true, s) =>
      let (a, rest) ← item s
      readItems item clock (a :: done) rest

/-- Reads the members of an object; `done` holds those before, last one first. -/
def readMembers {α : Type} (value : Reader α) :
    (clock : List Char) → (done : List (String × α)) → Reader (List (String × α))
  | [], _, _ => .error .truncated
  | _ :: clock, done, s => do
    match ← nextName done.isEmpty s with
    | (none, rest) => return (done.reverse, rest)
    | (some name, s) =>
      let (a, rest) ← value (← readColon s)
      readMembers value clock ((name, a) :: done) rest

/-! ## Values -/

def readValueWith (inner : Option (Reader Json)) (s : List Char) :
    Except Fault (Json × List Char) :=
  match dropBlanks s with
  | [] => .error .truncated
  | c :: rest =>
    if c = 'n' then do return (.null, ← readWord "ull".toList rest)
    else if c = 't' then do return (.bool true, ← readWord "rue".toList rest)
    else if c = 'f' then do return (.bool false, ← readWord "alse".toList rest)
    else if c = '"' then do
      let (t, rest) ← readString rest
      return (.string t, rest)
    else if startsNumber c then do
      let (n, rest) ← readNumber (c :: rest)
      return (.number n, rest)
    else
      match inner with
      | none => .error .malformed
      | some inner =>
        if c = '[' then do
          let (items, rest) ← readItems inner rest [] rest
          return (.array items, rest)
        else if c = '{' then do
          let (members, rest) ← readMembers inner rest [] rest
          return (.object members, rest)
        else .error .malformed

/-- Reads a value with brackets nested at most `depth` deep. -/
def readValue : (depth : Nat) → Reader Json
  | 0 => readValueWith none
  | depth + 1 => readValueWith (some (readValue depth))

/-- How deep the brackets of a document may be nested. -/
def maxDepth : Nat := 127

/-- Reads a whole document, behind which only blanks may follow. -/
def readDocument {α : Type} (reader : Nat → Reader α) (s : List Char) : Except Fault α := do
  let (a, rest) ← reader maxDepth s
  if dropBlanks rest = [] then return a else .error .malformed

def ofText (s : String) : Except Fault Json := readDocument readValue s.toList

end BargeIn.Json
