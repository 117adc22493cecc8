import BargeIn.Failure
import BargeIn.Json.Codec
import BargeIn.Json.Printer
import BargeIn.Listing
import BargeIn.Text.Token
import BargeIn.Unicode.WhiteSpace
import BargeIn.Utterance

/-!
# Settings

The two word lists and the confidence floor, as they are configured.  Settings are written as JSON;
lists and floor can be overridden from named variables.

Normalized settings hold every entry as its tokens with single spaces between them, without blank
and repeated entries, and a finite floor between 0 and 1.
-/

namespace BargeIn

open BargeIn.Number BargeIn.Json BargeIn.Text

/-- What a classifier is configured with: filler to be ignored while the agent speaks, words and
phrases that always stop it, and the mean confidence below which speech is taken for murmur. -/
structure Settings where
  fillers : List String
  stops : List String
  floor : Confidence
  deriving Repr, DecidableEq

namespace Settings

/-! ## Algorithm -/

/-- The floor where none is given: a half. -/
def defaultFloor : Confidence := .ofUnits false binary32.unity 2

def standard : Settings where
  fillers := ["uh", "umm", "hmm", "haan", "uhh", "uhm", "erm", "ah", "mm", "mmh", "mhmm"]
  stops := ["stop", "wait", "hold", "pause", "no", "one moment"]
  floor := defaultFloor

/-- The entries as normalized texts, each at the place where it is first seen, without blanks. -/
def normalizeList (entries : List String) : List String :=
  firstSeen ((entries.map fun e => joinTokens (tokenize e)).filter (· ≠ ""))

/-- A finite floor moved between 0 and 1; nothing for one that is not finite. -/
def normalizeFloor (floor : Confidence) : Option Confidence :=
  if floor.isFinite then some (floor.clamp (.ofNat false 0) (.ofNat false 1)) else none

/-- Lists and floor normalized; the default floor replaces one that is not finite. -/
def normalize (s : Settings) : Settings where
  fillers := normalizeList s.fillers
  stops := normalizeList s.stops
  floor := (normalizeFloor s.floor).getD defaultFloor

/-! ## Overrides -/

def fillersVariable : String := "INTERJECT_IGNORED_WORDS"

def stopsVariable : String := "INTERJECT_FORCE_STOP_WORDS"

def floorVariable : String := "INTERJECT_CONFIDENCE_FLOOR"

def splitCommas (s : String) : List String := (s.toList.splitOn ',').map String.ofList

/-- The floor that a variable's value spells, blanks around it apart. -/
def floorOfText? (s : String) : Option Confidence :=
  (Binary.ofText? (Unicode.trimWhiteSpace s.toList)).bind normalizeFloor

/-- Overrides the filler list by a comma-separated value, if there is one. -/
def overrideFillers (value : Option String) (s : Settings) : Settings :=
  match value with
  | some list => { s with fillers := normalizeList (splitCommas list) }
  | none => s

/-- Overrides the stop entries by a comma-separated value, if there is one. -/
def overrideStops (value : Option String) (s : Settings) : Settings :=
  match value with
  | some list => { s with stops := normalizeList (splitCommas list) }
  | none => s

/-- Overrides the floor, if there is a value; one that spells no finite number is refused. -/
def overrideFloor (value : Option String) (s : Settings) : Settings × Option Failure :=
  match value with
  | none => (s, none)
  | some text =>
    match floorOfText? text with
    | some floor => ({ s with floor := floor }, none)
    | none => (s, some (.invalidOverride floorVariable text))

/-- The settings with what the variables override.  Lists that were overridden before a floor is
refused stay so. -/
def override (lookup : String → Option String) (s : Settings) : Settings × Option Failure :=
  overrideFloor (lookup floorVariable)
    (overrideStops (lookup stopsVariable) (overrideFillers (lookup fillersVariable) s))

/-! ## JSON -/

/-- Fields that are left out take their defaults. -/
def record : Record Settings where
  blank := standard
  fields := [
    .of "ignored_words" (listCodec textCodec) fillers (fun x s => { s with fillers := x })
      false false,
    .of "force_stop_words" (listCodec textCodec) stops (fun x s => { s with stops := x })
      false false,
    .of "confidence_floor" singleCodec floor (fun x s => { s with floor := x }) false false]

def codec : Codec Settings := record.codec

def fileText (s : Settings) : String := (codec.toJson s).pretty

def ofFileText (text : String) : Except Fault Settings := codec.ofText text

/-! ## Lemmas -/

theorem mem_normalizeList {e : String} {entries : List String} :
    e ∈ normalizeList entries ↔ e ≠ "" ∧ ∃ t ∈ entries, joinTokens (tokenize t) = e := by
  simp [normalizeList, and_comm]

end Settings

end BargeIn
