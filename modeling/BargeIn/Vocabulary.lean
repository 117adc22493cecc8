import BargeIn.Listing
import BargeIn.Text.Token

/-!
# Vocabularies

A vocabulary is a set of spoken entries.  An entry is the list of its tokens: one token is a word,
several are a phrase, which is found only as a block of neighbouring tokens.  Configured texts that
hold no token leave no entry, so a blank list gives a vocabulary that finds nothing.

`matchesIn` lists what a vocabulary finds: the hits of the words and of the phrases are gathered one
after the other, brought in the order of their places by a sort that leaves ties alone, and named
once each.  `coverage` marks the tokens that lie inside something found.
-/

namespace BargeIn

open BargeIn.Text

/-- The entries of a vocabulary, each once and in the order in which they were configured. -/
structure Vocabulary where
  entries : List (List String)
  deriving Repr, DecidableEq

namespace Vocabulary

/-! ## Algorithm -/

def ofTexts (texts : List String) : Vocabulary :=
  ⟨firstSeen ((texts.map tokenize).filter (· ≠ []))⟩

def words (v : Vocabulary) : List String :=
  v.entries.filterMap fun e => match e with
    | [w] => some w
    | _ => none

/-- The entries of several tokens, in configured order. -/
def phrases (v : Vocabulary) : List (List String) := v.entries.filter fun e => decide (2 ≤ e.length)

def size (v : Vocabulary) : Nat := v.entries.length

def isEmpty (v : Vocabulary) : Bool := v.entries.isEmpty

def hasWord (v : Vocabulary) (token : String) : Bool := v.entries.contains [token]

/-- Do two vocabularies have the same words, in any order, and the same phrases, in one order? -/
def agrees (v w : Vocabulary) : Bool :=
  v.words.all (w.words.contains ·) && w.words.all (v.words.contains ·) &&
    decide (v.phrases = w.phrases)

/-- The entries as texts, ascending by code points. -/
def listing (v : Vocabulary) : List String := sorted (v.entries.map joinTokens)

/-- The blocks of `n` neighbours, from left to right. -/
def windows (n : Nat) (tokens : List String) : List (List String) :=
  (List.range (tokens.length + 1 - n)).map fun i => (tokens.drop i).take n

/-- The place of the first window of `tokens` that is `phrase`. -/
def findPhrase (tokens phrase : List String) : Option Nat :=
  if phrase = [] ∨ tokens.length < phrase.length then none
  else (windows phrase.length tokens).findIdx? (· == phrase)

/-- What is found in `tokens`, with its place: every token that is a word, and behind the words each
phrase where it begins first. -/
def hits (v : Vocabulary) (tokens : List String) : List (Nat × String) :=
  (tokens.zipIdx.filter fun p => v.hasWord p.1).map Prod.swap ++
    v.phrases.filterMap fun e => (findPhrase tokens e).map fun start => (start, joinTokens e)

/-- The entries that occur in `tokens`, as texts, by the place of their first occurrence. -/
def matchesIn (v : Vocabulary) (tokens : List String) : List String :=
  firstSeen ((sortBy Prod.fst (v.hits tokens)).map Prod.snd)

/-- The length of the longest entry that begins `tokens`. -/
def reach (v : Vocabulary) (tokens : List String) : Nat :=
  ((v.entries.filter (·.isPrefixOf tokens)).map List.length).foldr max 0

/-- Marks the tokens that lie inside an occurrence of an entry, when the first `left` tokens lie
inside one that began earlier. -/
def coverFrom (v : Vocabulary) (left : Nat) : List String → List Bool
  | [] => []
  | t :: rest =>
    let left := max left (v.reach (t :: rest))
    decide (0 < left) :: v.coverFrom (left - 1) rest

/-- For each token: does it lie inside an occurrence of an entry? -/
def coverage (v : Vocabulary) (tokens : List String) : List Bool := v.coverFrom 0 tokens

/-- The tokens that lie inside no occurrence of an entry, in order. -/
def uncovered (v : Vocabulary) (tokens : List String) : List String :=
  ((tokens.zip (v.coverage tokens)).filter fun p => !p.2).map Prod.fst

/-! ## Lemmas -/

theorem mem_entries_ofTexts {e : List String} {texts : List String} :
    e ∈ (ofTexts texts).entries ↔ e ≠ [] ∧ ∃ t ∈ texts, tokenize t = e := by
  simp [ofTexts, and_comm]

theorem mem_words {v : Vocabulary} {t : String} : t ∈ v.words ↔ [t] ∈ v.entries := by
  unfold words
  rw [List.mem_filterMap]
  constructor
  · rintro ⟨e, he, h⟩
    split at h
    · next w =>
      rw [Option.some.injEq] at h
      rwa [← h]
    · cases h
  · intro h
    exact ⟨[t], h, rfl⟩

@[simp] theorem length_coverFrom (v : Vocabulary) (left : Nat) (tokens : List String) :
    (v.coverFrom left tokens).length = tokens.length := by
  induction tokens generalizing left with
  | nil => rfl
  | cons t rest ih => simp [coverFrom, ih]

@[simp] theorem length_coverage (v : Vocabulary) (tokens : List String) :
    (v.coverage tokens).length = tokens.length := v.length_coverFrom 0 tokens

end Vocabulary

end BargeIn
