import BargeIn.Utterance

/-!
# Entries of a session log

A line of a log is blank, a comment, or an entry: the agent began to speak, it fell quiet, or an
utterance was heard.  An entry is an object that names its kind under `type` and has the fields of
the utterance beside it, or an array of the kind and the fields in their order.

In an object the kind may stand behind the fields, so these are kept as values until the object is
closed, and only then taken for what the kind makes of them.  Of the faults in a line the first is
the answer; a kind that is missing is a fault of the whole object.
-/

namespace BargeIn.Replay

open BargeIn.Json

inductive Entry where
  | speakingStarted
  | speakingEnded
  | heard (u : Utterance)
  deriving BEq

/-! ## Kinds -/

inductive Kind where
  | speakingStarted
  | speakingEnded
  | transcript
  deriving Repr, DecidableEq

namespace Kind

def all : List Kind := [.speakingStarted, .speakingEnded, .transcript]

def code : Kind → String
  | .speakingStarted => "speaking_started"
  | .speakingEnded => "speaking_ended"
  | .transcript => "transcript"

/-- Reads a kind, which is named by a string. -/
def read (depth : Nat) (s : List Char) : Except Fault (Kind × List Char) := do
  let (name, rest) ← textCodec.read depth s
  match all.find? (·.code == name) with
  | some kind => return (kind, rest)
  | none => .error .mismatched

end Kind

/-! ## Entries -/

namespace Entry

/-- Reads the members of an object up to its closing brace: the kind under `type`, and the other
members, of which `done` holds those before, last one first. -/
def readObject (depth : Nat) : (clock : List Char) → (kind? : Option Kind) →
    (done : List (String × Json)) → Reader (Kind × Json)
  | [], _, _, _ => .error .truncated
  | _ :: clock, kind?, done, s => do
    match ← nextName (kind?.isNone && done.isEmpty) s with
    | (none, rest) =>
      match kind? with
      | some kind => return ((kind, .object done.reverse), rest)
      | none => .error .mismatched
    | (some name, s) =>
      if name = "type" then
        -- a second kind is refused by its name, whatever stands behind it
        if kind?.isSome then .error .mismatched
        else
          let (kind, rest) ← Kind.read depth (← readColon s)
          readObject depth clock (some kind) done rest
      else
        let (j, rest) ← readValue depth (← readColon s)
        readObject depth clock kind? ((name, j) :: done) rest

/-- Reads the items of an array up to its closing bracket: the kind, and the others. -/
def readArray (depth : Nat) (s : List Char) : Except Fault ((Kind × Json) × List Char) := do
  match ← nextItem true s with
  | (false, _) => .error .mismatched
  | (true, s) =>
    let (kind, rest) ← Kind.read depth s
    -- the kind goes in front again, so that a comma is asked for behind it
    let (items, rest) ← readItems (readValue depth) rest [.string kind.code] rest
    return ((kind, .array items.tail), rest)

/-- The entry of a kind, with the fields that stand beside it. -/
def ofKind (kind : Kind) (fields : Json) : Option Entry :=
  let bare := match fields with
    | .array items => items.isEmpty
    | _ => true
  match kind with
  | .speakingStarted => if bare then some .speakingStarted else none
  | .speakingEnded => if bare then some .speakingEnded else none
  | .transcript => (Utterance.codec.ofJson fields).map .heard

def read (depth : Nat) (s : List Char) : Except Fault (Entry × List Char) := do
  let ((kind, fields), rest) ← match depth, dropBlanks s with
    | 0, '[' :: _ => .error .malformed
    | 0, '{' :: _ => .error .malformed
    | depth + 1, '[' :: rest => readArray depth rest
    | depth + 1, '{' :: rest => readObject depth rest none [] rest
    | _, t => .error (otherKind t)
  match ofKind kind fields with
  | some entry => return (entry, rest)
  | none => .error .mismatched

/-- The entry that a line holds. -/
def ofText (line : List Char) : Except Fault Entry := readDocument read line

end Entry

end BargeIn.Replay
