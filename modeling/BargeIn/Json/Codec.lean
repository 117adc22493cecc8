import BargeIn.Json.Skip

/-!
# Codecs

A codec says how the values of a type stand in JSON, in three ways that agree: reading from text,
taking from a value that has been read already, and giving a value to be written.

A record is read from an object, whose members may come in any order, or from an array of its
fields in their order.  Unknown members are passed over; a known name given twice is a fault.  The
text is read from left to right and the first fault met is the answer, so a value of the wrong kind
is reported before anything that is wrong behind it.
-/

namespace BargeIn.Json

open BargeIn.Number

/-- How the values of a type stand in JSON.  `depth` says how deep the brackets of a text that is
read may be nested. -/
structure Codec (α : Type) where
  read : (depth : Nat) → Reader α
  ofJson : Json → Option α
  toJson : α → Json

def Codec.ofText {α : Type} (codec : Codec α) (s : String) : Except Fault α :=
  readDocument codec.read s.toList

/-- The fault in a text that holds a value of another kind than the one asked for.  Words, numbers
and strings are read to their ends first; brackets are not entered. -/
def otherKind (s : List Char) : Fault :=
  match s with
  | [] => .truncated
  | c :: rest =>
    if c = '[' ∨ c = '{' then .mismatched
    else
      match readValueWith none (c :: rest) with
      | .error f => f
      | .ok _ => .mismatched

/-! ## Plain values -/

def textCodec : Codec String where
  read _ s :=
    match dropBlanks s with
    | '"' :: rest => readString rest
    | t => .error (otherKind t)
  ofJson
    | .string s => some s
    | _ => none
  toJson s := .string s

def Numeral.toSingle : Json.Numeral → Binary binary32
  | .integer i => .ofInt i
  | .single x => x
  | .double x => x.convert

/-- Single numbers.  One that is not finite is written as null and cannot be read. -/
def singleCodec : Codec (Binary binary32) where
  read _ s :=
    match dropBlanks s with
    | [] => .error .truncated
    | c :: rest =>
      if startsNumber c then do
        let (n, rest) ← readNumber (c :: rest)
        return (n.toSingle, rest)
      else .error (otherKind (c :: rest))
  ofJson
    | .number n => some n.toSingle
    | _ => none
  toJson x := if x.isFinite then .number (.single x) else .null

/-- Values that may be absent, and are null then. -/
def nullable {α : Type} (codec : Codec α) : Codec (Option α) where
  read depth s :=
    match dropBlanks s with
    | 'n' :: rest => do return (none, ← readWord "ull".toList rest)
    | t => do
      let (a, rest) ← codec.read depth t
      return (some a, rest)
  ofJson
    | .null => some none
    | j => (codec.ofJson j).map some
  toJson
    | none => .null
    | some a => codec.toJson a

def listCodec {α : Type} (codec : Codec α) : Codec (List α) where
  read depth s :=
    match depth, dropBlanks s with
    | 0, '[' :: _ => .error .malformed
    | depth + 1, '[' :: rest => readItems (codec.read depth) rest [] rest
    | _, t => .error (otherKind t)
  ofJson
    | .array items => items.mapM codec.ofJson
    | _ => none
  toJson items := .array (items.map codec.toJson)

/-- Objects of any members, by ascending names. -/
def membersCodec : Codec (List (String × Json)) where
  read depth s :=
    match depth, dropBlanks s with
    | 0, '{' :: _ => .error .malformed
    | depth + 1, '{' :: rest => do
      let (members, rest) ← readMembers (readValue depth) rest [] rest
      return (ofMembers (canonicalMembers members), rest)
    | _, t => .error (otherKind t)
  ofJson
    | .object members => some (ofMembers (canonicalMembers members))
    | _ => none
  toJson members := .object members

/-! ## Codes -/

def readNull (s : List Char) : Except Fault (List Char) :=
  match dropBlanks s with
  | 'n' :: rest => readWord "ull".toList rest
  | t => .error (otherKind t)

/-- Values that have a code each: the code as a string, or an object with null under the code. -/
def codeCodec {α : Type} (code : α → String) (all : List α) : Codec α where
  read depth s :=
    let ofCode (name : String) : Except Fault α :=
      match all.find? (fun a => code a == name) with
      | some a => .ok a
      | none => .error .mismatched
    match depth, dropBlanks s with
    | _, [] => .error .truncated
    | _, '"' :: rest => do
      let (name, rest) ← readString rest
      return (← ofCode name, rest)
    | 0, '{' :: _ => .error .malformed
    | _ + 1, '{' :: rest => do
      let (name, rest) ← readName rest
      let a ← ofCode name
      let rest ← readNull (← readColon rest)
      match dropBlanks rest with
      | [] => .error .truncated
      | c :: rest => if c = '}' then return (a, rest) else .error .malformed
    | _, _ => .error .malformed
  ofJson
    | .string name => all.find? fun a => code a == name
    | .object [(name, .null)] => all.find? fun a => code a == name
    | _ => none
  toJson a := .string (code a)

/-! ## Records -/

/-- A field of a record: how it is read and stored in a record, taken from a value and stored, and
given to be written; and whether an object and an array must have it. -/
structure Field (α : Type) where
  name : String
  read : (depth : Nat) → α → Reader α
  store : Json → α → Option α
  view : α → Json
  inObject : Bool
  inArray : Bool

/-- A field with the codec of its type. -/
def Field.of {α β : Type} (name : String) (codec : Codec β) (get : α → β) (set : β → α → α)
    (inObject inArray : Bool) : Field α where
  name := name
  read depth a s := do
    let (b, rest) ← codec.read depth s
    return (set b a, rest)
  store j a := (codec.ofJson j).map (set · a)
  view a := codec.toJson (get a)
  inObject := inObject
  inArray := inArray

/-- The fields of a record in their order, and the record that has none of them yet. -/
structure Record (α : Type) where
  blank : α
  fields : List (Field α)

namespace Record

variable {α : Type}

/-- Are all fields that an object must have among the names `seen`? -/
def complete (R : Record α) (seen : List String) : Bool :=
  R.fields.all fun f => !f.inObject || seen.contains f.name

/-- Reads the members of an object into a record. -/
def readObject (R : Record α) (depth : Nat) :
    (clock : List Char) → (first : Bool) → (seen : List String) → α → Reader α
  | [], _, _, _, _ => .error .truncated
  | _ :: clock, first, seen, a, s => do
    match ← nextName first s with
    | (none, rest) => if R.complete seen then return (a, rest) else .error .mismatched
    | (some name, s) =>
      match R.fields.find? (fun f => f.name == name) with
      | none => readObject R depth clock false seen a (← skipValue (← readColon s))
      | some f =>
        if seen.contains name then .error .mismatched
        else
          let (a, s) ← f.read depth a (← readColon s)
          readObject R depth clock false (name :: seen) a s

/-- Reads the items of an array into the fields of a record, one after the other. -/
def readArray (depth : Nat) : (fields : List (Field α)) → (first : Bool) → α → Reader α
  | [], _, a, s =>
    match dropBlanks s with
    | [] => .error .truncated
    | c :: rest => if c = ']' then .ok (a, rest) else .error .malformed
  | f :: fields, first, a, s => do
    match ← nextItem first s with
    | (false, rest) =>
      if (f :: fields).any Field.inArray then .error .mismatched else return (a, rest)
    | (true, s) =>
      let (a, s) ← f.read depth a s
      readArray depth fields false a s

/-- Takes the members of an object into a record. -/
def storeObject (R : Record α) : List (String × Json) → (seen : List String) → α → Option α
  | [], seen, a => if R.complete seen then some a else none
  | (name, j) :: rest, seen, a =>
    match R.fields.find? (fun f => f.name == name) with
    | none => R.storeObject rest seen a
    | some f =>
      if seen.contains name then none
      else (f.store j a).bind (R.storeObject rest (name :: seen))

/-- Takes the items of an array into the fields of a record. -/
def storeArray : List (Field α) → List Json → α → Option α
  | [], [], a => some a
  | [], _ :: _, _ => none
  | fields, [], a => if fields.any Field.inArray then none else some a
  | f :: fields, j :: items, a => (f.store j a).bind (storeArray fields items)

def codec (R : Record α) : Codec α where
  read depth s :=
    match depth, dropBlanks s with
    | 0, '[' :: _ => .error .malformed
    | 0, '{' :: _ => .error .malformed
    | depth + 1, '[' :: rest => readArray depth R.fields true R.blank rest
    | depth + 1, '{' :: rest => R.readObject depth rest true [] R.blank rest
    | _, t => .error (otherKind t)
  ofJson
    | .array items => storeArray R.fields items R.blank
    | .object members => R.storeObject members [] R.blank
    | _ => none
  toJson a := .object (R.fields.map fun f => (f.name, f.view a))

end Record

end BargeIn.Json
