import Mathlib
import BargeIn.Settings.File
import BargeIn.Proofs.Folder.Write
import BargeIn.Proofs.Json.RoundTrip

/-!
# Settings come back from their file

The text of a settings file is read as the settings that it was written for, whatever stands in the
lists, if their floor is finite.
-/

namespace BargeIn.Settings

open BargeIn.Number BargeIn.Json

theorem codec_returns {s : Settings} (hfinite : s.floor.isFinite = true) (depth : Nat) :
    codec.Returns (depth + 2) s (some s) :=
  Record.codec_returns (by decide) <|
    .kept (texts_returns depth s.fillers) <|
    .kept (texts_returns depth s.stops) <|
    .kept (singleCodec_returns_self (depth + 1) hfinite) <|
    .done s

theorem ofFileText_fileText {s : Settings} (hfinite : s.floor.isFinite = true) :
    ofFileText s.fileText = .ok s :=
  (codec_returns hfinite 125).ofText_pretty

theorem ofContent_fileText {s : Settings} (hfinite : s.floor.isFinite = true) :
    ofContent s.fileText.toUTF8 = .ok s.normalize := by
  unfold ofContent
  have h : String.fromUTF8? s.fileText.toUTF8 = some s.fileText := by
    simp only [String.fromUTF8?, String.toUTF8_eq_toByteArray, dif_pos s.fileText.isValidUTF8]
    rfl
  rw [h]
  simp only [ofFileText_fileText hfinite]

/-- Settings that were saved without a fault are the text of the file that is found there. -/
theorem look_save {s : Settings} {folder folder' : Folder} {path : String}
    (hsave : s.save folder path = (folder', none)) :
    folder'.look path = .ok s.fileText.toUTF8 := by
  unfold save at hsave
  apply Folder.look_write (f := folder)
  rcases hwrite : folder.write path s.fileText.toUTF8 with ⟨written, fault⟩
  rw [hwrite] at hsave
  cases fault with
  | none => simpa using hsave
  | some fault => simp at hsave

end BargeIn.Settings
