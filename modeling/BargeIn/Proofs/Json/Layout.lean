import Mathlib
import BargeIn.Json.Printer
import BargeIn.Proofs.Json.Numbers
import BargeIn.Proofs.Json.Strings

/-!
# Layouts

A value is written without blanks or in lines.  Either way an array or an object is a row between
brackets, with blanks that depend on the style (`Style.text_array`, `Style.text_object`):

    row gap true [t₁, t₂, t₃] = gap ++ t₁ ++ "," ++ gap ++ t₂ ++ "," ++ gap ++ t₃
-/

namespace BargeIn.Json

open BargeIn.Number

/-- All characters are blanks. -/
def Blank (s : List Char) : Prop := ∀ c ∈ s, isBlank c = true

theorem blank_nil : Blank [] := by simp [Blank]

theorem blank_space : Blank [' '] := by simp [Blank, isBlank]

theorem blank_lineBreak (depth : Nat) : Blank (lineBreak depth) :=
  fun _ h => isBlank_of_mem_lineBreak h

theorem endsNumber_of_isBlank {c : Char} (hc : isBlank c = true) (s : List Char) :
    EndsNumber (c :: s) := by
  rw [endsNumber_cons]
  simp only [isBlank, Bool.or_eq_true, beq_iff_eq] at hc
  rcases hc with ((rfl | rfl) | rfl) | rfl <;> rfl

theorem Blank.endsNumber_append {gap s : List Char} (hgap : Blank gap) (hs : EndsNumber s) :
    EndsNumber (gap ++ s) := by
  cases gap with
  | nil => exact hs
  | cons c gap => exact endsNumber_of_isBlank (hgap c List.mem_cons_self) _

/-! ## Rows -/

/-- Texts with `gap` in front of each and commas between them, also before the first one if it is
not the first of the row. -/
def row (gap : List Char) (first : Bool) : List (List Char) → List Char
  | [] => []
  | t :: ts => (if first then [] else [',']) ++ (gap ++ (t ++ row gap false ts))

/-- A list is laid out as a row if one entry by itself and each one before others are. -/
theorem eq_row {β : Type} (gap : List Char) (text : β → List Char) (lay : List β → List Char)
    (hnil : lay [] = []) (hone : ∀ b, lay [b] = gap ++ text b)
    (hmore : ∀ b c l, lay (b :: c :: l) = gap ++ (text b ++ ',' :: lay (c :: l))) (l : List β) :
    lay l = row gap true (l.map text) := by
  induction l with
  | nil => exact hnil
  | cons b l ih =>
    cases l with
    | nil => simp [hone, row]
    | cons c l =>
      rw [hmore, ih]
      simp [row]

/-- A row goes on with a comma, or ends in front of a blank or a bracket. -/
theorem endsNumber_row (gap : List Char) (ts : List (List Char)) {close : List Char}
    (hclose : Blank close) {c : Char} (hc : continuesNumber c = false) (rest : List Char) :
    EndsNumber (row gap false ts ++ (close ++ c :: rest)) := by
  cases ts with
  | nil => exact hclose.endsNumber_append (endsNumber_cons.2 hc)
  | cons t ts => exact endsNumber_cons.2 (by decide)

theorem length_le_row (gap : List Char) (first : Bool) {ts : List (List Char)}
    (hne : ∀ t ∈ ts, t ≠ []) : ts.length ≤ (row gap first ts).length := by
  induction ts generalizing first with
  | nil => simp
  | cons t ts ih =>
    have hrest := ih false fun u hu => hne u (List.mem_cons_of_mem _ hu)
    have ht := List.length_pos_iff.2 (hne t List.mem_cons_self)
    simp only [row, List.length_cons, List.length_append]
    omega

/-! ## Styles -/

/-- How a value is written: without blanks, or in lines inside so many brackets. -/
inductive Style where
  | compact
  | lines (depth : Nat)

namespace Style

/-- The text of a value. -/
def text : Style → Json → List Char
  | compact, j => render j
  | lines depth, j => prettyAt depth j

/-- The style of what stands inside one more bracket. -/
def inner : Style → Style
  | compact => compact
  | lines depth => lines (depth + 1)

/-- The blanks in front of items and members. -/
def gap : Style → List Char
  | compact => []
  | lines depth => lineBreak (depth + 1)

/-- The blanks in front of the closing bracket of a list. -/
def close {β : Type} : Style → List β → List Char
  | lines depth, _ :: _ => lineBreak depth
  | _, _ => []

/-- The blanks behind a colon. -/
def colonGap : Style → List Char
  | compact => []
  | lines _ => [' ']

/-- The text of a member. -/
def member (style : Style) (m : String × Json) : List Char :=
  renderString m.1 ++ ':' :: (style.colonGap ++ style.inner.text m.2)

theorem blank_gap (style : Style) : Blank style.gap := by
  cases style with
  | compact => exact blank_nil
  | lines depth => exact blank_lineBreak _

theorem blank_close {β : Type} (style : Style) (l : List β) : Blank (style.close l) := by
  cases style with
  | compact => exact blank_nil
  | lines depth =>
    cases l with
    | nil => exact blank_nil
    | cons b l => exact blank_lineBreak _

theorem blank_colonGap (style : Style) : Blank style.colonGap := by
  cases style with
  | compact => exact blank_nil
  | lines depth => exact blank_space

theorem text_null (style : Style) : style.text .null = 'n' :: "ull".toList := by
  cases style <;> rfl

theorem text_number (style : Style) (n : Json.Numeral) :
    style.text (.number n) = renderNumber n := by
  cases style <;> simp [text, render, prettyAt]

theorem text_bool (style : Style) (b : Bool) : style.text (.bool b) = renderBool b := by
  cases style <;> simp [text, render, prettyAt]

theorem text_string (style : Style) (s : String) : style.text (.string s) = renderString s := by
  cases style <;> simp [text, render, prettyAt]

theorem text_array (style : Style) (items : List Json) :
    style.text (.array items) =
      '[' :: (row style.gap true (items.map style.inner.text) ++ (style.close items ++ [']'])) := by
  cases style with
  | compact =>
    have hrow := eq_row [] render renderItems rfl (by simp [renderItems]) (by simp [renderItems])
      items
    simp only [text, render, hrow]
    rfl
  | lines depth =>
    have hrow := eq_row (lineBreak (depth + 1)) (prettyAt (depth + 1)) (prettyItems (depth + 1)) rfl
      (by simp [prettyItems]) (by simp [prettyItems]) items
    cases items with
    | nil => rfl
    | cons j items =>
      simp only [text, prettyAt, hrow, List.append_assoc]
      rfl

theorem text_object (style : Style) (members : List (String × Json)) :
    style.text (.object members) =
      '{' :: (row style.gap true (members.map style.member) ++ (style.close members ++ ['}'])) := by
  cases style with
  | compact =>
    have hrow := eq_row [] compact.member renderMembers rfl
      (by simp [renderMembers, member, colonGap, inner, text])
      (by simp [renderMembers, member, colonGap, inner, text]) members
    simp only [text, render, hrow]
    rfl
  | lines depth =>
    have hrow := eq_row (lineBreak (depth + 1)) (lines depth).member (prettyMembers (depth + 1)) rfl
      (by simp [prettyMembers, member, colonGap, inner, text])
      (by simp [prettyMembers, member, colonGap, inner, text]) members
    cases members with
    | nil => rfl
    | cons m members =>
      simp only [text, prettyAt, hrow, List.append_assoc]
      rfl

end Style

end BargeIn.Json
