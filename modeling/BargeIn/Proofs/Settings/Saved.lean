import Mathlib
import BargeIn.Proofs.Settings.FileText

/-!
# Saved settings

Settings with a finite floor that were saved are loaded as they are once normalized: the lists entry
by entry, whatever the entries hold, and the floor bit by bit (`load_saved`).
-/

namespace BargeIn.Settings

open BargeIn.Number BargeIn.Json

theorem load_saved {s : Settings} (hfinite : s.floor.isFinite = true) {folder folder' : Folder}
    {path : String} (hsave : s.save folder path = (folder', none)) :
    load path (folder'.look path) = .ok s.normalize := by
  unfold load
  rw [look_save hsave]
  exact ofContent_fileText hfinite

/-- Settings whose entries need escapes, repeat one another or are blank. -/
def awkward : Settings where
  fillers := ["say \"uh\"", "uh\\huh", "uh\thuh\n", "\x01\x7f", "", "  ", "uh", "UH", "äh… 🙂"]
  stops := []
  floor := .ofDecimal false ⟨7, -1⟩

theorem load_saved_awkward : awkward.floor.isFinite = true ∧
    (awkward.save .empty "etc/settings.json").2 = none ∧
    load "etc/settings.json"
      ((awkward.save .empty "etc/settings.json").1.look "etc/settings.json") =
        .ok awkward.normalize := by
  have hfinite : awkward.floor.isFinite = true := by decide +kernel
  have hsave : (awkward.save .empty "etc/settings.json").2 = none := by decide +kernel
  exact ⟨hfinite, hsave, load_saved hfinite (Prod.ext rfl hsave)⟩

end BargeIn.Settings
