import BargeIn.Text.LetterCase
import BargeIn.Unicode.Alphanumeric

/-!
# Tokens of spoken text

Configured vocabularies and incoming transcripts are cut into tokens by the same rule, so that an
entry `Stop!` and a recognised `stop,` meet in the token `stop`.  Text is split at separators, the
characters that are neither alphanumeric nor an underscore nor an apostrophe; of every piece the
apostrophes at its edges are dropped, and what is left, unless it is empty, is lower-cased.

    tokenize "Umm, don't STOP!" = ["umm", "don't", "stop"]
-/

namespace BargeIn.Text

open BargeIn.Unicode

/-! ## Algorithm -/

def isSeparator (c : Char) : Bool := !(isAlphanumeric c || c == '_' || c == '\'')

/-- Is `c` dropped from the edges of a token: a separator or an apostrophe? -/
def isEdge (c : Char) : Bool := c == '\'' || isSeparator c

/-- `s` without the separators and apostrophes at its two ends. -/
def trimEdges (s : List Char) : List Char :=
  ((s.dropWhile isEdge).reverse.dropWhile isEdge).reverse

/-- The token that a piece of text stands for, if anything is left between its edges. -/
def normalizePiece (s : List Char) : Option (List Char) :=
  match trimEdges s with
  | [] => none
  | c :: rest => some (lowerWord (c :: rest))

def tokensOf (s : List Char) : List (List Char) := (s.splitOnP isSeparator).filterMap normalizePiece

/-- The token that `raw` stands for as a whole; separators inside it are kept. -/
def normalizeToken (raw : String) : Option String :=
  (normalizePiece raw.toList).map String.ofList

def tokenize (text : String) : List String := (tokensOf text.toList).map String.ofList

/-- The tokens of the entries of `raw`, each of which may hold punctuation or several words. -/
def tokenizeAll (raw : List String) : List String := raw.flatMap tokenize

/-- The tokens written as one text, with single spaces between them. -/
def joinTokens (tokens : List String) : String := " ".intercalate tokens

/-! ## Lemmas -/

@[simp] theorem toList_joinTokens (tokens : List String) :
    (joinTokens tokens).toList = [' '].intercalate (tokens.map String.toList) := by
  simp [joinTokens]

@[simp] theorem tokenizeAll_nil : tokenizeAll [] = [] := rfl

@[simp] theorem tokenizeAll_append (xs ys : List String) :
    tokenizeAll (xs ++ ys) = tokenizeAll xs ++ tokenizeAll ys := by
  simp [tokenizeAll]

/-- A separator parts the tokens before it from the tokens after it. -/
theorem tokensOf_append_cons (s t : List Char) {c : Char} (hc : isSeparator c = true) :
    tokensOf (s ++ c :: t) = tokensOf s ++ tokensOf t := by
  simp [tokensOf, List.splitOnP_append_cons _ _ hc]

end BargeIn.Text
