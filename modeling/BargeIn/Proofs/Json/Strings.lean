import Mathlib
import BargeIn.Json.Printer
import BargeIn.Json.Scanner

/-!
# Strings are read as they were written

Written between quotes, a string keeps all of its characters but those that would end it or that
JSON refuses: these stand behind a backslash, and the reader takes them back.  So whatever follows
on the closing quote,

    readString (s.toList.flatMap renderChar ++ '"' :: rest) = .ok (s, rest)    (readString_rendered)
-/

namespace BargeIn.Json

/-! ## Blanks -/

theorem dropBlanks_append {gap : List Char} (hgap : ∀ c ∈ gap, isBlank c = true) (s : List Char) :
    dropBlanks (gap ++ s) = dropBlanks s := by
  unfold dropBlanks
  exact List.dropWhile_append_of_pos hgap

theorem dropBlanks_cons {c : Char} (hc : isBlank c = false) (s : List Char) :
    dropBlanks (c :: s) = c :: s := by
  unfold dropBlanks
  rw [List.dropWhile_cons, if_neg (by simp [hc])]

theorem isBlank_of_mem_lineBreak {depth : Nat} {c : Char} (h : c ∈ lineBreak depth) :
    isBlank c = true := by
  unfold lineBreak at h
  rcases List.mem_cons.1 h with rfl | h
  · rfl
  · rw [List.eq_of_mem_replicate h]
    rfl

/-! ## Characters -/

/-- A character with a letter of its own is the one that the letter stands for. -/
theorem unescapeLetter_of_escapeLetter {c l : Char} (h : escapeLetter c = some l) :
    unescapeLetter l = some c ∧ l ≠ 'u' := by
  unfold escapeLetter at h
  split at h
  all_goals first
    | cases h
      decide
    | exact absurd h (by simp)

theorem hexDigit?_digitChar {d : Nat} (hd : d < 16) : hexDigit? (Nat.digitChar d) = some d := by
  have h : ∀ d < 16, hexDigit? (Nat.digitChar d) = some d := by decide
  exact h d hd

/-- Four characters do not end within their four bytes. -/
theorem endsWithinFour_four (a b c d : Char) (s : List Char) :
    endsWithinFour (a :: b :: c :: d :: s) = false := by
  unfold endsWithinFour
  have ha := a.utf8Size_pos
  have hb := b.utf8Size_pos
  have hc := c.utf8Size_pos
  have hd := d.utf8Size_pos
  simp [String.ofList_cons]
  omega

theorem readStringFrom_renderChar (c : Char) (done s : List Char) :
    readStringFrom true .plain done (renderChar c ++ s) =
      readStringFrom true .plain (c :: done) s := by
  unfold renderChar
  cases he : escapeLetter c with
  | some l =>
    obtain ⟨hl, hu⟩ := unescapeLetter_of_escapeLetter he
    simp [readStringFrom, hu, hl]
  | none =>
    by_cases hc : c.toNat < 32
    · -- a control character, by its number in four digits
      have hhigh := hexDigit?_digitChar (d := c.toNat / 16) (by omega)
      have hlow := hexDigit?_digitChar (d := c.toNat % 16) (by omega)
      have hzero : hexDigit? '0' = some 0 := rfl
      have hvalue : 16 * (c.toNat / 16) + c.toNat % 16 = c.toNat := by omega
      have hend : hexEnd true none c.toNat = .ok ([c], .plain) := by
        unfold hexEnd
        simp only [Bool.not_true, Bool.false_eq_true, if_false]
        rw [if_neg (by omega), if_neg (by omega), Char.ofNat_toNat]
      simp [readStringFrom, if_pos hc, hexStart, endsWithinFour_four, hzero, hhigh, hlow, hvalue,
        hend]
    · have hquote : c ≠ '"' := by
        rintro rfl
        simp [escapeLetter] at he
      have hslash : c ≠ '\\' := by
        rintro rfl
        simp [escapeLetter] at he
      simp [readStringFrom, hc, hquote, hslash]

/-! ## Strings -/

theorem readStringFrom_flatMap (cs done s : List Char) :
    readStringFrom true .plain done (cs.flatMap renderChar ++ s) =
      readStringFrom true .plain (cs.reverse ++ done) s := by
  induction cs generalizing done with
  | nil => rfl
  | cons c cs ih =>
    rw [List.flatMap_cons, List.append_assoc, readStringFrom_renderChar, ih, List.reverse_cons,
      List.append_assoc]
    rfl

/-- What was written of a string behind its opening quote is read as the string. -/
theorem readString_rendered (s : String) (rest : List Char) :
    readString (s.toList.flatMap renderChar ++ '"' :: rest) = .ok (s, rest) := by
  unfold readString
  rw [readStringFrom_flatMap]
  simp [readStringFrom, bind, Except.bind, pure, Except.pure]

end BargeIn.Json
