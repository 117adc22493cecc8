import BargeIn.Json.Codec
import BargeIn.Text.Token

/-!
# Utterances

An utterance is what the recognizer reports once a speaker has finished: the text, perhaps the
tokens it heard, perhaps confidences for the whole and for single words, and metadata that is handed
on untouched.

Two views of an utterance decide what is made of it: its `tokens`, taken from the recognizer's
tokens if it reported any and from the text otherwise, and its `meanConfidence`.
-/

namespace BargeIn

open BargeIn.Number BargeIn.Json BargeIn.Text

/-- How sure the recognizer is: a number of thirty-two bits, meant to lie between 0 and 1. -/
abbrev Confidence := Binary binary32

/-- A recognised word with the recognizer's confidence in it. -/
structure HeardWord where
  word : String
  confidence : Confidence
  deriving Repr, DecidableEq

/-- One finished utterance.  The tokens are the recognizer's own; without them the text is
tokenized. -/
structure Utterance where
  text : String
  heardTokens : Option (List String)
  confidence : Option Confidence
  words : List HeardWord
  metadata : List (String × Json)
  deriving BEq

namespace Utterance

/-! ## Algorithm -/

/-- An utterance of which only the text is known. -/
def ofText (text : String) : Utterance := ⟨text, none, none, [], []⟩

/-- An utterance whose tokens were recognised one by one. -/
def ofTokens (tokens : List String) : Utterance :=
  { ofText (joinTokens tokens) with heardTokens := some tokens }

def withConfidence (u : Utterance) (c : Confidence) : Utterance := { u with confidence := some c }

def withWords (u : Utterance) (words : List HeardWord) : Utterance := { u with words := words }

/-- The utterance with one more entry of metadata, which replaces an earlier one of its name. -/
def withMetadata (u : Utterance) (name : String) (value : Json) : Utterance :=
  { u with metadata := putMember name value.canonical u.metadata }

def tokens (u : Utterance) : List String :=
  match u.heardTokens with
  | some heard => tokenizeAll heard
  | none => tokenize u.text

/-- The sum of confidences from left to right, rounded at every step; the empty sum is minus
zero. -/
def total (cs : List Confidence) : Confidence := cs.foldl Binary.add (.ofNat true 0)

/-- The rounded sum divided by the rounded count. -/
def mean (cs : List Confidence) : Confidence := (total cs).div (.ofNat false cs.length)

/-- The mean of the words' confidences if there are words, otherwise the confidence in the whole. -/
def meanConfidence (u : Utterance) : Option Confidence :=
  if u.words.isEmpty then u.confidence else some (mean (u.words.map HeardWord.confidence))

/-! ## JSON -/

/-- A word is written with its confidence; one that comes without counts as certain. -/
def wordRecord : Record HeardWord where
  blank := ⟨"", .ofNat false 1⟩
  fields := [
    .of "word" textCodec HeardWord.word (fun w h => { h with word := w }) true true,
    .of "confidence" singleCodec HeardWord.confidence (fun c h => { h with confidence := c })
      false false]

/-- Every field of an utterance may be left out. -/
def record : Record Utterance where
  blank := ofText ""
  fields := [
    .of "text" textCodec text (fun x u => { u with text := x }) false false,
    .of "tokens" (nullable (listCodec textCodec)) heardTokens
      (fun x u => { u with heardTokens := x }) false false,
    .of "confidence" (nullable singleCodec) confidence (fun x u => { u with confidence := x })
      false false,
    .of "words" (listCodec wordRecord.codec) words (fun x u => { u with words := x }) false false,
    .of "metadata" membersCodec metadata (fun x u => { u with metadata := x }) false false]

def codec : Codec Utterance := record.codec

/-! ## Lemmas -/

@[simp] theorem tokens_ofText (text : String) : (ofText text).tokens = tokenize text := rfl

@[simp] theorem tokens_ofTokens (tokens : List String) :
    (ofTokens tokens).tokens = tokenizeAll tokens := rfl

end Utterance

end BargeIn
