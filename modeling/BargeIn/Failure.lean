import BargeIn.Json.Scanner
import BargeIn.Text.Quoted

/-!
# Failures

What can go wrong around a classifier.  Classifying itself never fails; failures come from settings
and their files and from listeners.
-/

namespace BargeIn

open BargeIn.Json BargeIn.Text

/-- Why a file cannot be used.  A name may be too long by itself or the whole path may be, and a
fault may be told in words by whoever met it. -/
inductive FileFault where
  | notFound
  | notADirectory
  | isADirectory
  | alreadyExists
  | nameTooLong
  | zeroInPath
  | invalidData
  | told (message : String)
  deriving Repr, DecidableEq

def FileFault.message : FileFault → String
  | .notFound => "No such file or directory (os error 2)"
  | .notADirectory => "Not a directory (os error 20)"
  | .isADirectory => "Is a directory (os error 21)"
  | .alreadyExists => "File exists (os error 17)"
  | .nameTooLong => "File name too long (os error 36)"
  | .zeroInPath => "file name contained an unexpected NUL byte"
  | .invalidData => "stream did not contain valid UTF-8"
  | .told message => message

/-- Does the fault mean that nothing stands at the path? -/
def FileFault.meansAbsence : FileFault → Bool
  | .notFound => true
  | .notADirectory => true
  | .nameTooLong => true
  | .zeroInPath => true
  | _ => false

/-- What went wrong: with the settings file or the JSON in it, with the variable of an override,
with a listener, with a file; or anything else, told from its outermost context to its root
cause. -/
inductive Failure where
  | settingsNotFound (path : String)
  | settingsText (fault : Fault)
  | invalidOverride (key value : String)
  | listener (name reason : String)
  | file (fault : FileFault)
  | other (chain : List String)
  deriving Repr, DecidableEq

/-- Contexts and cause in one line. -/
def joinChain (chain : List String) : String := ": ".intercalate chain

namespace Failure

/-- The failure in words, without the words of a cause that lies outside. -/
def headline : Failure → String
  | .settingsNotFound path => "config file not found: " ++ path
  | .settingsText _ => "config JSON error"
  | .invalidOverride key value => "invalid value for " ++ key ++ ": " ++ quoted value
  | .listener name reason => "listener `" ++ name ++ "` failed: " ++ reason
  | .file _ => "IO error"
  | .other chain => chain.headD ""

/-- The failure in words, except for those in which the reader of JSON tells of a fault. -/
def message : Failure → String
  | .file fault => "IO error: " ++ fault.message
  | f => f.headline

/-- The same with all the contexts of a failure from elsewhere. -/
def fullMessage : Failure → String
  | .other chain => joinChain chain
  | f => f.message

/-- The failure and its causes, each in words; `words` are those of the reader of JSON.  A cause
that is named in the words of the failure is a cause nevertheless. -/
def causes (words : Fault → String) : Failure → List String
  | .settingsText fault => ["config JSON error: " ++ words fault, words fault]
  | .file fault => ["IO error: " ++ fault.message, fault.message]
  | .other chain => chain
  | f => [f.headline]

end Failure

end BargeIn
