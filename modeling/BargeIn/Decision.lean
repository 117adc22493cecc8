import BargeIn.Json.Printer
import BargeIn.Utterance
import BargeIn.Vocabulary

/-!
# Decisions

While an agent speaks, everything that is heard is either filler to be ignored or an interruption
that must stop it; while it is quiet, what is heard is ordinary speech.  `Policy.decide` is the
rule.  The first of these cases that applies gives the outcome and its reason:

1. the agent is quiet: speech is registered;
2. the mean confidence is known and below the floor: filler;
3. a stop word or stop phrase occurs: an interruption, even amid filler;
4. every token lies inside a filler word or phrase, as it does if there is none: filler;
5. otherwise: an interruption.
-/

namespace BargeIn

open BargeIn.Number BargeIn.Json BargeIn.Text

/-- What is made of an utterance: filler or murmur, over which the agent speaks on; ordinary speech
to a quiet agent; or an interruption, at which the agent must stop. -/
inductive Outcome where
  | fillerIgnored
  | speechRegistered
  | validInterruption
  deriving Repr, DecidableEq

/-- Why an outcome was chosen. -/
inductive Reason where
  | lowConfidence
  | allFiller
  | forceStopWord
  | mixedNonFiller
  | notSpeaking
  deriving Repr, DecidableEq

def Outcome.code : Outcome → String
  | .fillerIgnored => "filler_ignored"
  | .speechRegistered => "speech_registered"
  | .validInterruption => "valid_interruption"

def Reason.code : Reason → String
  | .lowConfidence => "low_confidence"
  | .allFiller => "all_filler"
  | .forceStopWord => "force_stop_word"
  | .mixedNonFiller => "mixed_non_filler"
  | .notSpeaking => "not_speaking"

/-- The decision on one utterance.  The normalized text has single spaces between the tokens.  The
matched tokens are those that decided: the stop entries found, the filler, or the tokens that are no
filler. -/
structure Decision where
  outcome : Outcome
  reason : Reason
  normalizedText : String
  matchedTokens : List String
  confidence : Option Confidence
  utterance : Utterance
  deriving BEq

/-- Must the agent stop? -/
def Decision.isInterruption (d : Decision) : Bool := decide (d.outcome = .validInterruption)

/-- What a decision depends on besides the utterance.  A mean confidence below the floor is taken
for murmur. -/
structure Policy where
  speaking : Bool
  floor : Confidence
  fillers : Vocabulary
  stops : Vocabulary
  deriving Repr, DecidableEq

namespace Policy

/-! ## Algorithm -/

/-- Is a confidence known, and below the floor? -/
def isMurmur (p : Policy) (confidence : Option Confidence) : Bool :=
  match confidence with
  | some c => c.lt p.floor
  | none => false

/-- The judgement of tokens heard clearly while the agent speaks. -/
def judge (p : Policy) (tokens : List String) : Outcome × Reason × List String :=
  match p.stops.matchesIn tokens, p.fillers.uncovered tokens with
  | hit :: hits, _ => (.validInterruption, .forceStopWord, hit :: hits)
  | [], [] => (.fillerIgnored, .allFiller, tokens)
  | [], t :: rest => (.validInterruption, .mixedNonFiller, t :: rest)

/-- The outcome, its reason and the tokens that decided, from tokens and mean confidence. -/
def ruling (p : Policy) (tokens : List String) (confidence : Option Confidence) :
    Outcome × Reason × List String :=
  if !p.speaking then (.speechRegistered, .notSpeaking, [])
  else if p.isMurmur confidence then (.fillerIgnored, .lowConfidence, [])
  else p.judge tokens

def decide (p : Policy) (u : Utterance) : Decision :=
  let (outcome, reason, matched) := p.ruling u.tokens u.meanConfidence
  { outcome := outcome
    reason := reason
    normalizedText := joinTokens u.tokens
    matchedTokens := matched
    confidence := u.meanConfidence
    utterance := u }

end Policy

/-! ## JSON -/

def Outcome.codec : Codec Outcome :=
  codeCodec Outcome.code [.fillerIgnored, .speechRegistered, .validInterruption]

def Reason.codec : Codec Reason :=
  codeCodec Reason.code
    [.lowConfidence, .allFiller, .forceStopWord, .mixedNonFiller, .notSpeaking]

namespace Decision

/-- An object may leave out the confidence and nothing else; an array must have every field. -/
def record : Record Decision where
  blank := ⟨.fillerIgnored, .lowConfidence, "", [], none, .ofText ""⟩
  fields := [
    .of "outcome" Outcome.codec outcome (fun x d => { d with outcome := x }) true true,
    .of "reason" Reason.codec reason (fun x d => { d with reason := x }) true true,
    .of "normalized_text" textCodec normalizedText (fun x d => { d with normalizedText := x })
      true true,
    .of "matched_tokens" (listCodec textCodec) matchedTokens
      (fun x d => { d with matchedTokens := x }) true true,
    .of "confidence" (nullable singleCodec) confidence (fun x d => { d with confidence := x })
      false true,
    .of "event" Utterance.codec utterance (fun x d => { d with utterance := x }) true true]

def codec : Codec Decision := record.codec

/-- The decision as one line of JSON. -/
def line (d : Decision) : String := (codec.toJson d).compact

end Decision

end BargeIn
