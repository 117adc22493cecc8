import BargeIn.Number.Shortest

/-!
# JSON values

A value as it stands in a document: members of an object keep their order and may repeat a name.
`canonical` gives the value that a document's reader works with, where the names of an object
ascend and the last member of a name has replaced the earlier ones.
-/

namespace BargeIn

open BargeIn.Number

/-- A number of a document: an integer, or a binary number of either width. -/
inductive Json.Numeral where
  | integer (i : Int)
  | single (x : Binary binary32)
  | double (x : Binary binary64)
  deriving Repr, DecidableEq

inductive Json where
  | null
  | bool (b : Bool)
  | number (n : Json.Numeral)
  | string (s : String)
  | array (items : List Json)
  | object (members : List (String × Json))
  deriving Inhabited, BEq

namespace Json

/-- Puts a member at its place among ascending names, where it replaces one of the same name. -/
def putMember {α : Type} (name : String) (a : α) : List (String × α) → List (String × α)
  | [] => [(name, a)]
  | (other, b) :: rest =>
    if name < other then (name, a) :: (other, b) :: rest
    else if name = other then (name, a) :: rest
    else (other, b) :: putMember name a rest

/-- Members by ascending names, the last one of each name. -/
def ofMembers {α : Type} (members : List (String × α)) : List (String × α) :=
  members.foldl (fun done m => putMember m.1 m.2 done) []

mutual

/-- The value with the names of every object ascending and without repetition. -/
def canonical : Json → Json
  | .array items => .array (canonicalItems items)
  | .object members => .object (ofMembers (canonicalMembers members))
  | j => j

def canonicalItems : List Json → List Json
  | [] => []
  | j :: rest => canonical j :: canonicalItems rest

def canonicalMembers : List (String × Json) → List (String × Json)
  | [] => []
  | (name, j) :: rest => (name, canonical j) :: canonicalMembers rest

end

end Json

end BargeIn
