import Mathlib
import BargeIn.Replay.Log
import BargeIn.Proofs.Session.History

/-!
# The lines of a log

A log is cut at the bytes of its line feeds, and a log that is a text is cut into the lines of the
text (`linesOf_toUTF8`): in no other character does the byte of the line feed occur.

A line is idle, holds an entry, or halts the replay.  Lines that do not halt it are replayed one
after the other (`replayLines_append`), the entries among them as steps of the session.
-/

namespace BargeIn.Replay

open BargeIn.Json

/-! ## Lines of a text -/

/-- The lines of a text. -/
def linesOfText (text : String) : List (List Char) := text.toList.splitOn '\n'

/-- The text of lines. -/
def textOfLines (lines : List (List Char)) : String := String.ofList (['\n'].intercalate lines)

theorem splitOn_append_of_notMem {α : Type} [DecidableEq α] {a : α} {s : List α} (h : a ∉ s)
    (t : List α) : (s ++ t).splitOn a = (t.splitOn a).modifyHead (s ++ ·) := by
  induction s with
  | nil =>
    rw [List.nil_append]
    cases t.splitOn a <;> rfl
  | cons b s ih =>
    rw [List.mem_cons, not_or] at h
    rw [List.cons_append, List.splitOn_cons_eq_if_modifyHead, if_neg (by simpa using Ne.symm h.1),
      ih h.2]
    cases t.splitOn a <;> rfl

theorem notMem_of_mem_splitOn {α : Type} [DecidableEq α] {a : α} {s part : List α}
    (h : part ∈ s.splitOn a) : a ∉ part := by
  induction s generalizing part with
  | nil => simp_all
  | cons b s ih =>
    rw [List.splitOn_cons_eq_if_modifyHead] at h
    by_cases hb : b = a
    · rw [if_pos (by simpa using hb), List.mem_cons] at h
      rcases h with rfl | h
      · exact List.not_mem_nil
      · exact ih h
    · rw [if_neg (by simpa using hb)] at h
      cases hsplit : s.splitOn a with
      | nil => simp [hsplit] at h
      | cons first rest =>
        rw [hsplit] at ih
        rw [hsplit, List.modifyHead_cons, List.mem_cons] at h
        rcases h with rfl | h
        · have hfirst := ih List.mem_cons_self
          simp [Ne.symm hb, hfirst]
        · exact ih (List.mem_cons_of_mem _ h)

theorem linesOfText_textOfLines {lines : List (List Char)} (h : ∀ l ∈ lines, '\n' ∉ l)
    (hne : lines ≠ []) : linesOfText (textOfLines lines) = lines := by
  unfold linesOfText textOfLines
  rw [String.toList_ofList, List.splitOn_intercalate _ h hne]

/-- Only the line feed has the byte of the line feed. -/
theorem linefeed_notMem_utf8EncodeChar {c : Char} (h : c ≠ '\n') :
    (10 : UInt8) ∉ String.utf8EncodeChar c := by
  have hval : c.val.toNat ≠ 10 := by
    intro heq
    apply h
    apply Char.ext
    exact UInt32.toNat_inj.1 heq
  have hbyte : ∀ n, (10 : UInt8) = UInt8.ofNat n ↔ n % 256 = 10 := by
    intro n
    rw [← UInt8.toNat_inj, UInt8.toNat_ofNat', eq_comm]
    rfl
  unfold String.utf8EncodeChar
  simp only
  split
  · simp only [List.mem_singleton, hbyte]
    omega
  split
  · simp only [List.mem_cons, List.not_mem_nil, or_false, hbyte]
    omega
  split
  · simp only [List.mem_cons, List.not_mem_nil, or_false, hbyte]
    omega
  · simp only [List.mem_cons, List.not_mem_nil, or_false, hbyte]
    omega

theorem splitOn_flatMap_utf8 (s : List Char) :
    (s.flatMap String.utf8EncodeChar).splitOn 10 =
      (s.splitOn '\n').map fun line => line.flatMap String.utf8EncodeChar := by
  induction s with
  | nil => rfl
  | cons c s ih =>
    rw [List.flatMap_cons]
    by_cases hc : c = '\n'
    · subst hc
      have hone : String.utf8EncodeChar '\n' ++ s.flatMap String.utf8EncodeChar =
        [] ++ 10 :: s.flatMap String.utf8EncodeChar := rfl
      rw [hone, List.splitOn_append_cons_self, ih, ← List.nil_append ('\n' :: s),
        List.splitOn_append_cons_self]
      rfl
    · rw [splitOn_append_of_notMem (linefeed_notMem_utf8EncodeChar hc), ih,
        ← List.singleton_append, splitOn_append_of_notMem (by simpa using Ne.symm hc)]
      cases s.splitOn '\n' <;> simp

theorem fromUTF8?_flatMap_utf8 (s : List Char) :
    String.fromUTF8? (s.flatMap String.utf8EncodeChar).toByteArray = some (String.ofList s) := by
  have hbytes : (s.flatMap String.utf8EncodeChar).toByteArray = (String.ofList s).toByteArray :=
    String.toByteArray_ofList.symm
  rw [hbytes, String.fromUTF8?, dif_pos (String.ofList s).isValidUTF8]
  rfl

/-- The lines of a text are those of its bytes. -/
theorem linesOf_toUTF8 (text : String) : linesOf text.toUTF8 = (linesOfText text).map some := by
  have hbytes : text.toUTF8.data.toList = text.toList.flatMap String.utf8EncodeChar := by
    rw [String.toUTF8_eq_toByteArray, ← String.utf8Encode_toList, List.utf8Encode]
    simp
  unfold linesOf linesOfText
  rw [hbytes, splitOn_flatMap_utf8, List.map_map]
  refine List.map_congr_left fun line _ => ?_
  simp [fromUTF8?_flatMap_utf8]

/-! ## What a line asks -/

/-- Is a line passed over? -/
def idle : Option (List Char) → Bool
  | some line => (content? line).isNone
  | none => false

/-- The entry that a line holds. -/
def entryOf? : Option (List Char) → Option Entry
  | some line => (content? line).bind fun text => (Entry.ofText text).toOption
  | none => none

/-- The entries of lines. -/
def entriesOf (lines : List (Option (List Char))) : List Entry := lines.filterMap entryOf?

/-- Does the replay stop at a line? -/
def halts (line : Option (List Char)) : Bool := !idle line && (entryOf? line).isNone

/-- A line of a text that is neither passed over nor an entry. -/
def Bad (line : List Char) : Prop :=
  ∃ text fault, content? line = some text ∧ Entry.ofText text = .error fault

/-- Why the replay stops at a line. -/
inductive StopsAt (number : Nat) : Option (List Char) → Stop → Prop
  | bad {line text : List Char} {fault : Fault} : content? line = some text →
      Entry.ofText text = .error fault →
      StopsAt number (some line) (.badLine number (String.ofList text) fault)
  | unreadable : StopsAt number none (.unreadable .invalidData)

theorem halts_some {line : List Char} : halts (some line) = true ↔ Bad line := by
  unfold halts Bad
  simp only [idle, entryOf?]
  cases content? line with
  | none => simp
  | some text => cases he : Entry.ofText text <;> simp [he, Except.toOption]

instance (line : List Char) : Decidable (Bad line) := decidable_of_iff _ halts_some

theorem not_idle_of_halts {line : Option (List Char)} (h : halts line = true) :
    idle line = false := by
  simp only [halts, Bool.and_eq_true, Bool.not_eq_true'] at h
  exact h.1

theorem halts_of_idle {line : Option (List Char)} (h : idle line = true) : halts line = false := by
  simp [halts, h]

theorem entryOf?_of_idle {line : Option (List Char)} (h : idle line = true) :
    entryOf? line = none := by
  cases line with
  | none => rfl
  | some line => simp_all [idle, entryOf?]

theorem entriesOf_filter (lines : List (Option (List Char))) :
    entriesOf (lines.filter fun l => !idle l) = entriesOf lines := by
  unfold entriesOf
  rw [List.filterMap_filter]
  refine List.filterMap_congr fun line _ => ?_
  cases h : idle line with
  | true => simp [entryOf?_of_idle h]
  | false => simp

/-! ## Replaying lines -/

/-- A line that does not halt the replay is passed over or taken as a step. -/
theorem replayLines_cons {line : Option (List Char)} (h : halts line = false) (s : Session)
    (number : Nat) (rest : List (Option (List Char))) :
    replayLines s number (line :: rest) =
      match entryOf? line with
      | none => replayLines s (number + 1) rest
      | some e =>
        ((s.step e.step).2 :: (replayLines (s.step e.step).1 (number + 1) rest).1,
          (replayLines (s.step e.step).1 (number + 1) rest).2) := by
  cases line with
  | none => simp [halts, idle, entryOf?] at h
  | some line =>
    cases hc : content? line with
    | none => simp [replayLines, entryOf?, hc]
    | some text =>
      cases he : Entry.ofText text with
      | error fault => exact absurd (halts_some.2 ⟨text, fault, hc, he⟩) (by simp [h])
      | ok e => simp [replayLines, entryOf?, hc, he, Except.toOption]

theorem replayLines_of_stopsAt {line : Option (List Char)} {number : Nat} {why : Stop}
    (h : StopsAt number line why) (s : Session) (rest : List (Option (List Char))) :
    replayLines s number (line :: rest) = ([], .error why) := by
  cases h with
  | bad hc he => simp [replayLines, hc, he]
  | unreadable => rfl

/-- Lines that do not halt the replay are replayed, and those behind them from there. -/
theorem replayLines_append {before : List (Option (List Char))} (h : ∀ l ∈ before, halts l = false)
    (s : Session) (number : Nat) (later : List (Option (List Char))) :
    replayLines s number (before ++ later) =
      let steps := (entriesOf before).map Entry.step
      let onward := replayLines (s.after steps) (number + before.length) later
      (s.reports steps ++ onward.1, onward.2) := by
  induction before generalizing s number with
  | nil => rfl
  | cons line before ih =>
    have hrest : ∀ l ∈ before, halts l = false := fun l hl => h l (List.mem_cons_of_mem _ hl)
    have hnumber : number + (line :: before).length = number + 1 + before.length := by
      rw [List.length_cons]
      omega
    rw [List.cons_append, replayLines_cons (h line List.mem_cons_self), hnumber]
    cases he : entryOf? line with
    | none =>
      have hentries : entriesOf (line :: before) = entriesOf before := List.filterMap_cons_none he
      simp only [ih hrest, hentries]
    | some e =>
      have hentries : entriesOf (line :: before) = e :: entriesOf before :=
        List.filterMap_cons_some he
      simp only [ih hrest, hentries]
      rfl

end BargeIn.Replay
