import Mathlib
import BargeIn.Session
import BargeIn.Proofs.Settings.Normalize

/-!
# Lists from variables

A list that comes from a variable is the entries with commas between them, and it is normalized once
more than a list from a file.  Entries without commas come back from such a value, and their second
normalization is the last that counts, so the same entries make the same session either way
(`new_override_eq`).
-/

namespace BargeIn

open BargeIn.Text

namespace Settings

/-! ## Values of variables -/

/-- The value of a variable that lists the entries. -/
def joinCommas (entries : List String) : String := ",".intercalate entries

/-- One variable has a value, the others have none. -/
def only (name value : String) : String → Option String :=
  fun asked => if asked = name then some value else none

theorem splitCommas_joinCommas {entries : List String} (h : ∀ e ∈ entries, ',' ∉ e.toList)
    (hne : entries ≠ []) : splitCommas (joinCommas entries) = entries := by
  have hlist : (joinCommas entries).toList = [','].intercalate (entries.map String.toList) := by
    simp [joinCommas]
  unfold splitCommas
  rw [hlist, splitOn_map_toList h hne, List.map_map]
  simp [Function.comp_def]

/-- The empty list is an empty value, which is read as one blank entry. -/
theorem normalizeList_splitCommas_joinCommas {entries : List String}
    (h : ∀ e ∈ entries, ',' ∉ e.toList) :
    normalizeList (splitCommas (joinCommas entries)) = normalizeList entries := by
  by_cases hne : entries = []
  · subst hne
    decide
  · rw [splitCommas_joinCommas h hne]

/-! ## Overrides of one list -/

theorem override_fillers (s : Settings) (value : String) :
    s.override (only fillersVariable value) =
      ({ s with fillers := normalizeList (splitCommas value) }, none) := by
  have hstops : only fillersVariable value stopsVariable = none := rfl
  have hfloor : only fillersVariable value floorVariable = none := rfl
  unfold override
  rw [hstops, hfloor]
  rfl

theorem override_stops (s : Settings) (value : String) :
    s.override (only stopsVariable value) =
      ({ s with stops := normalizeList (splitCommas value) }, none) := by
  have hfillers : only stopsVariable value fillersVariable = none := rfl
  have hfloor : only stopsVariable value floorVariable = none := rfl
  unfold override
  rw [hfillers, hfloor]
  rfl

end Settings

/-! ## Sessions -/

namespace Session

/-- A new session depends on the settings' lists by the vocabularies of their normalized entries. -/
theorem new_congr {s t : Settings} (executor : Executor)
    (hfillers : Vocabulary.ofTexts (Settings.normalizeList s.fillers) =
      Vocabulary.ofTexts (Settings.normalizeList t.fillers))
    (hstops : Vocabulary.ofTexts (Settings.normalizeList s.stops) =
      Vocabulary.ofTexts (Settings.normalizeList t.stops))
    (hfloor : s.floor = t.floor) : new s executor = new t executor := by
  simp only [new, Settings.normalize, hfillers, hstops, hfloor]

/-- Entries without commas make the same session, with the same vocabularies and the same floor,
whether they stand in the settings or come from a variable. -/
theorem new_override_eq (s : Settings) (executor : Executor) {entries : List String}
    (h : ∀ e ∈ entries, ',' ∉ e.toList) :
    (∃ c, s.override (Settings.only Settings.fillersVariable (Settings.joinCommas entries)) =
        (c, none) ∧ new c executor = new { s with fillers := entries } executor) ∧
    ∃ c, s.override (Settings.only Settings.stopsVariable (Settings.joinCommas entries)) =
        (c, none) ∧ new c executor = new { s with stops := entries } executor := by
  have hsame := Vocabulary.ofTexts_normalizeList_normalizeList entries
  constructor
  · refine ⟨_, s.override_fillers _, ?_⟩
    rw [Settings.normalizeList_splitCommas_joinCommas h]
    exact new_congr executor hsame rfl rfl
  · refine ⟨_, s.override_stops _, ?_⟩
    rw [Settings.normalizeList_splitCommas_joinCommas h]
    exact new_congr executor rfl hsame rfl

/-- A phrase, a blank, a repetition and a capital dotted I. -/
def awkwardEntries : List String := ["You  know", "", "um", "UM!", "\u0130\u015fte"]

/-- Awkward entries from a variable make the session of the same entries in the settings. -/
theorem new_override_awkward : (∀ e ∈ awkwardEntries, ',' ∉ e.toList) ∧
    ∃ c, Settings.standard.override
        (Settings.only Settings.stopsVariable (Settings.joinCommas awkwardEntries)) = (c, none) ∧
      new c .running = new { Settings.standard with stops := awkwardEntries } .running := by
  have hcommas : ∀ e ∈ awkwardEntries, ',' ∉ e.toList := by decide
  exact ⟨hcommas, (new_override_eq .standard .running hcommas).2⟩

end Session

end BargeIn
