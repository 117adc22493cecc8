import Mathlib
import BargeIn.Proofs.Decision.Alike
import BargeIn.Proofs.Session.Answer
import BargeIn.Proofs.Settings.FileText
import BargeIn.Proofs.Settings.Normalize

/-!
# Restarting from a saved file

The settings of a session are its listings and its floor.  Saved, loaded and given to a new session,
they are normalized and tokenized three times more, and the entries come back in ascending order.
Nothing of this is noticed by a session that was configured by normalized settings: its entries are
settled, and no answer depends on their order but for the order of the stop entries that it names
(`alike_after_restart`).
-/

namespace BargeIn

open BargeIn.Number BargeIn.Json BargeIn.Text

/-! ## Sessions of normalized settings -/

/-- The session's vocabularies and its floor are those of the settings, normalized. -/
structure Session.Follows (s : Session) (c : Settings) : Prop where
  fillers : s.policy.fillers = .ofTexts (Settings.normalizeList c.fillers)
  stops : s.policy.stops = .ofTexts (Settings.normalizeList c.stops)
  floor : s.policy.floor = c.normalize.floor

theorem Session.follows_new (c : Settings) (executor : Executor) : (new c executor).Follows c :=
  ⟨rfl, rfl, rfl⟩

theorem Session.follows_configure (s : Session) (c : Settings) :
    (s.step (.configure c)).1.Follows c :=
  ⟨rfl, rfl, rfl⟩

/-- The listing of a normalized list, normalized twice more, gives the same entries again. -/
theorem Vocabulary.perm_ofTexts_normalizeList_listing (texts : List String) {v : Vocabulary}
    (hv : v = ofTexts (Settings.normalizeList texts)) :
    (ofTexts (Settings.normalizeList (Settings.normalizeList v.listing))).entries.Perm
      v.entries := by
  have hsettled : v.Settled := by
    rw [hv]
    exact settled_ofTexts fun _ => not_dotted_of_mem_normalizeList
  have hnodup : v.entries.Nodup := by
    rw [hv]
    exact nodup_entries_ofTexts _
  rw [ofTexts_normalizeList, ofTexts_map_normalText fun _ => not_dotted_of_mem_normalizeList,
    ofTexts_normalizeList, ofTexts_map_normalText fun _ => hsettled.not_dotted_of_mem_listing]
  exact hsettled.perm_ofTexts_listing hnodup

namespace Session

theorem Follows.floor_settings {k : Session} {c : Settings} (h : k.Follows c) :
    k.settings.floor.isFinite = true ∧
      Settings.normalizeFloor k.settings.floor = some k.settings.floor := by
  have hfloor : k.settings.floor = c.normalize.floor := h.floor
  rw [hfloor]
  exact Settings.normalizeFloor_normalize c

/-- A session of the settings of one that follows normalized settings is like that one. -/
theorem Follows.alike {k l : Session} {c : Settings} (hk : k.Follows c)
    (hl : l.Follows k.settings.normalize) (speaking : Bool) :
    Policy.Alike { l.policy with speaking := speaking } { k.policy with speaking := speaking } where
  speaking := rfl
  floor := by
    have hfixed := hk.floor_settings.2
    have honce := Settings.floor_normalize_of_normalized hfixed
    have htwice : k.settings.normalize.normalize.floor = k.settings.normalize.floor := by
      apply Settings.floor_normalize_of_normalized
      rw [honce]
      exact hfixed
    show l.policy.floor = k.policy.floor
    rw [hl.floor, htwice, honce]
    rfl
  fillers := by
    rw [hl.fillers]
    exact Vocabulary.perm_ofTexts_normalizeList_listing c.fillers hk.fillers
  stops := by
    rw [hl.stops]
    exact Vocabulary.perm_ofTexts_normalizeList_listing c.stops hk.stops

theorem settings_of_alike {k l : Session} {speaking : Bool}
    (h : Policy.Alike { l.policy with speaking := speaking }
      { k.policy with speaking := speaking }) : l.settings = k.settings := by
  have hfloor : l.policy.floor = k.policy.floor := h.floor
  have hfillers : l.policy.fillers.listing = k.policy.fillers.listing :=
    Vocabulary.listing_of_perm h.fillers
  have hstops : l.policy.stops.listing = k.policy.stops.listing :=
    Vocabulary.listing_of_perm h.stops
  unfold settings
  rw [hfloor, hfillers, hstops]

/-- The settings of a session come back from the file that they were saved in. -/
theorem Follows.load_save {k : Session} {c : Settings} (h : k.Follows c)
    {folder folder' : Folder} {path : String}
    (hsave : k.settings.save folder path = (folder', none)) :
    Settings.load path (folder'.look path) = .ok k.settings.normalize := by
  unfold Settings.load
  rw [Settings.look_save hsave]
  exact Settings.ofContent_fileText h.floor_settings.1

/-- A session that was configured, and one that is started from the file in which the settings of
the first were saved, list the same entries and the same floor and answer alike ever after. -/
theorem alike_after_restart (c : Settings) (before : Session) (executor executor' : Executor)
    (k : Session) (hk : k = new c executor ∨ k = (before.step (.configure c)).1)
    (folder folder' : Folder) (path : String)
    (hsave : k.settings.save folder path = (folder', none)) :
    ∃ c', Settings.load path (folder'.look path) = .ok c' ∧
      (new c' executor').settings = k.settings ∧
      ∀ speaking u, ∃ d d', k.answer speaking u = some d ∧
        (new c' executor').answer speaking u = some d' ∧ d'.Alike d := by
  have hfollows : k.Follows c := by
    rcases hk with rfl | rfl
    · exact follows_new c executor
    · exact follows_configure before c
  have hnew := follows_new k.settings.normalize executor'
  refine ⟨k.settings.normalize, hfollows.load_save hsave, ?_, fun speaking u => ?_⟩
  · exact settings_of_alike (hfollows.alike hnew false)
  · exact ⟨_, _, answer_eq _ _ _, answer_eq _ _ _, (hfollows.alike hnew speaking).decide u⟩

/-- Settings with capital letters, punctuation and a phrase. -/
def asked : Settings := ⟨["You KNOW", "uh"], ["Stop!", "one moment"], Settings.defaultFloor⟩

/-- A session of them answers alike after it was saved in a new folder and started again. -/
theorem asked_after_restart :
    ((new asked .running).settings.save .empty "etc/settings.json").2 = none ∧
    ∃ c', Settings.load "etc/settings.json"
        (((new asked .running).settings.save .empty "etc/settings.json").1.look
          "etc/settings.json") = .ok c' ∧
      (new c' .running).settings = (new asked .running).settings ∧
      ∀ speaking u, ∃ d d', (new asked .running).answer speaking u = some d ∧
        (new c' .running).answer speaking u = some d' ∧ d'.Alike d := by
  have hsave : ((new asked .running).settings.save .empty "etc/settings.json").2 = none := by
    decide +kernel
  exact ⟨hsave, alike_after_restart asked (new asked .running) .running .running _
    (Or.inl rfl) .empty _ "etc/settings.json" (Prod.ext rfl hsave)⟩

end Session

end BargeIn
