import BargeIn.Folder
import BargeIn.Settings

/-!
# Settings on disk

Settings are kept in a file as JSON laid out in lines.  They are normalized when they are loaded,
not when they are saved.
-/

namespace BargeIn.Settings

/-- The settings in the content of a file, normalized. -/
def ofContent (content : ByteArray) : Except Failure Settings :=
  match String.fromUTF8? content with
  | none => .error (.file .invalidData)
  | some text =>
    match ofFileText text with
    | .error fault => .error (.settingsText fault)
    | .ok s => .ok s.normalize

/-- Loads settings from the file at `path`, of which `found` is the content. -/
def load (path : String) (found : Except FileFault ByteArray) : Except Failure Settings :=
  match found with
  | .error fault =>
    .error (if fault.meansAbsence then .settingsNotFound path else .file fault)
  | .ok content => ofContent content

/-- Loads settings, or takes the standard ones if that fails. -/
def loadOrStandard (path : String) (found : Except FileFault ByteArray) : Settings :=
  match load path found with
  | .ok s => s
  | .error _ => standard

/-- Saves settings as the file at `path`, in a folder that is made if need be. -/
def save (s : Settings) (folder : Folder) (path : String) : Folder × Option Failure :=
  (folder.write path s.fileText.toUTF8).map id (Option.map .file)

end BargeIn.Settings
