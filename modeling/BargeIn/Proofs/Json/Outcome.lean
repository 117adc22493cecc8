import Mathlib
import BargeIn.Json.Codec
import BargeIn.Proofs.Json.Layout
import BargeIn.Proofs.Json.NumberText

/-!
# What is made of a text that was written

A reader that stands before a text takes a value from it or faults.  What it makes of a text that
was written for a value is the same behind any blanks and in front of anything that does not go on
with a number, and it takes the text to its end (`Yields`).  It need not be the value that was
written: a number that is not finite is written as null.

An array of such texts gives the values of its items one after the other, or none if one of them
faults, and so do the members of an object and the fields of a record.
-/

namespace BargeIn.Json

open BargeIn.Number

variable {α β : Type}

/-! ## Steps that may fail -/

theorem toOption_bind {ε : Type} (x : Except ε α) (f : α → Except ε β) :
    (x >>= f).toOption = x.toOption.bind fun a => (f a).toOption := by
  cases x <;> rfl

theorem toOption_map {ε : Type} (x : Except ε α) (f : α → β) :
    (x.map f).toOption = x.toOption.map f := by
  cases x <;> rfl

theorem toOption_eq_some {ε : Type} {x : Except ε α} {a : α} :
    x.toOption = some a ↔ x = .ok a := by
  cases x <;> simp [Except.toOption]

/-- A map behind steps is a map behind every step. -/
theorem map_mapM {γ : Type} (f : α → Option β) (g : β → γ) (l : List α) :
    (l.mapM f).map (List.map g) = l.mapM fun a => (f a).map g := by
  induction l with
  | nil => rfl
  | cons a l ih =>
    rw [List.mapM_cons, List.mapM_cons, ← ih]
    cases f a with
    | none => rfl
    | some b => cases l.mapM f <;> rfl

/-- Every value of a list is kept exactly when the list is. -/
theorem mapM_eq_some_self {f : α → Option α} {l : List α} :
    l.mapM f = some l ↔ ∀ a ∈ l, f a = some a := by
  induction l with
  | nil => simp
  | cons a l ih =>
    simp only [List.mapM_cons, List.forall_mem_cons, ← ih]
    cases hf : f a with
    | none => simp
    | some b =>
      cases hl : l.mapM f with
      | none => simp
      | some bs => simp

/-- Steps that keep what they give do not change the list. -/
theorem eq_of_mapM {f : α → Option α} (hf : ∀ a b, f a = some b → b = a) {l l' : List α}
    (h : l.mapM f = some l') : l' = l := by
  induction l generalizing l' with
  | nil =>
    obtain rfl : [] = l' := by simpa using h
    rfl
  | cons a l ih =>
    rw [List.mapM_cons] at h
    obtain ⟨b, hb, h⟩ := Option.bind_eq_some_iff.1 h
    obtain ⟨bs, hbs, h⟩ := Option.bind_eq_some_iff.1 h
    obtain rfl : b :: bs = l' := Option.some.inj h
    rw [hf a b hb, ih hbs]

/-! ## Texts and what is made of them -/

/-- Behind any blanks, the reader takes the value `o` from the text `t` and nothing more, whatever
follows that does not go on with a number; or it faults, if `o` is none.  The text begins with a
part of a value. -/
structure Yields (reader : Reader α) (t : List Char) (o : Option α) : Prop where
  head : ∃ c s, t = c :: s ∧ isBlank c = false ∧ c ≠ ']'
  read : ∀ gap rest, Blank gap → EndsNumber rest →
    (reader (gap ++ (t ++ rest))).toOption = o.map (·, rest)

theorem Yields.read_here {reader : Reader α} {t : List Char} {o : Option α}
    (h : Yields reader t o) {rest : List Char} (hrest : EndsNumber rest) :
    (reader (t ++ rest)).toOption = o.map (·, rest) :=
  h.read [] rest blank_nil hrest

theorem Yields.ne_nil {reader : Reader α} {t : List Char} {o : Option α} (h : Yields reader t o) :
    t ≠ [] := by
  obtain ⟨c, s, rfl, -⟩ := h.head
  exact List.cons_ne_nil c s

theorem dropBlanks_gap {gap : List Char} (hgap : Blank gap) {c : Char} (hc : isBlank c = false)
    (s : List Char) : dropBlanks (gap ++ c :: s) = c :: s := by
  rw [dropBlanks_append hgap, dropBlanks_cons hc]

/-! ## Rows of items -/

section

variable {reader : Reader α} {gap close : List Char}

theorem nextItem_close (first : Bool) (hclose : Blank close) (rest : List Char) :
    nextItem first (close ++ ']' :: rest) = .ok (false, rest) := by
  unfold nextItem
  rw [dropBlanks_gap hclose (by decide)]
  simp

theorem Yields.nextItem_row {t : List Char} {o : Option α} (h : Yields reader t o)
    (hgap : Blank gap) (first : Bool) (ts : List (List Char)) (s : List Char) :
    nextItem first (row gap first (t :: ts) ++ s) = .ok (true, t ++ (row gap false ts ++ s)) := by
  obtain ⟨c, u, rfl, hc, hb⟩ := h.head
  unfold nextItem
  cases first with
  | true =>
    simp only [row, if_true, List.nil_append, List.append_assoc, List.cons_append]
    rw [dropBlanks_gap hgap hc]
    simp [hb]
  | false =>
    simp only [row, Bool.false_eq_true, if_false, List.append_assoc, List.cons_append,
      List.nil_append]
    rw [dropBlanks_cons (by decide)]
    simp [dropBlanks_gap hgap hc, hb]

/-- The loop over items reads the rest of a row, item by item along its clock, up to an item that
faults. -/
theorem toOption_readItems_row (hgap : Blank gap) (hclose : Blank close) {text : β → List Char}
    {value : β → Option α} {bs : List β} (h : ∀ b ∈ bs, Yields reader (text b) (value b))
    (rest : List Char) :
    ∀ (clock : List Char) (done : List α), bs.length < clock.length →
      (readItems reader clock done
        (row gap done.isEmpty (bs.map text) ++ (close ++ ']' :: rest))).toOption =
        (bs.mapM value).map fun as => (done.reverse ++ as, rest) := by
  induction bs with
  | nil =>
    intro clock done hclock
    cases clock with
    | nil => simp at hclock
    | cons k clock =>
      rw [readItems, List.map_nil, row, List.nil_append, nextItem_close _ hclose, ok_bind]
      simp [pure, Except.pure, Except.toOption]
  | cons b bs ih =>
    intro clock done hclock
    cases clock with
    | nil => simp at hclock
    | cons k clock =>
      have hb := h b List.mem_cons_self
      have hends := endsNumber_row gap (bs.map text) hclose (c := ']') (by decide) rest
      rw [readItems, List.map_cons, hb.nextItem_row hgap, ok_bind]
      simp only
      rw [toOption_bind, hb.read_here hends, List.mapM_cons]
      cases value b with
      | none => rfl
      | some a =>
        have hrest := ih (fun c hc => h c (List.mem_cons_of_mem b hc)) clock (a :: done)
          (by simpa using hclock)
        rw [List.isEmpty_cons] at hrest
        simp only [Option.map_some, Option.bind_some]
        rw [hrest]
        cases bs.mapM value <;> simp

/-- The items of an array are read behind its bracket, with their own text for a clock. -/
theorem toOption_readItems (hgap : Blank gap) (hclose : Blank close) {text : β → List Char}
    {value : β → Option α} {bs : List β} (h : ∀ b ∈ bs, Yields reader (text b) (value b))
    (rest : List Char) :
    (readItems reader (row gap true (bs.map text) ++ (close ++ ']' :: rest)) []
      (row gap true (bs.map text) ++ (close ++ ']' :: rest))).toOption =
      (bs.mapM value).map (·, rest) := by
  have hne : ∀ t ∈ bs.map text, t ≠ [] := by
    intro t ht
    obtain ⟨b, hb, rfl⟩ := List.mem_map.1 ht
    exact (h b hb).ne_nil
  have hclock := length_le_row gap true hne
  refine (toOption_readItems_row hgap hclose h rest _ [] ?_).trans (by simp)
  simp only [List.length_append, List.length_cons, List.length_map] at hclock ⊢
  omega

end

/-! ## Rows of members -/

section

variable {close : List Char}

theorem nextName_close (first : Bool) (hclose : Blank close) (rest : List Char) :
    nextName first (close ++ '}' :: rest) = .ok (none, rest) := by
  unfold nextName
  rw [dropBlanks_gap hclose (by decide)]
  simp

theorem readName_rendered {gap : List Char} (hgap : Blank gap) (name : String) (s : List Char) :
    readName (gap ++ (renderString name ++ s)) = .ok (name, s) := by
  unfold readName renderString
  rw [List.cons_append, dropBlanks_gap hgap (by decide), List.append_assoc]
  simp only [if_pos]
  exact readString_rendered name s

theorem nextName_row {gap : List Char} (hgap : Blank gap) (first : Bool) (name : String)
    (t : List Char) (ts : List (List Char)) (s : List Char) :
    nextName first (row gap first ((renderString name ++ t) :: ts) ++ s) =
      .ok (some name, t ++ (row gap false ts ++ s)) := by
  unfold nextName
  cases first with
  | true =>
    have hname := readName_rendered blank_nil name (t ++ (row gap false ts ++ s))
    rw [List.nil_append, renderString, List.cons_append] at hname
    simp only [row, if_true, List.nil_append, List.append_assoc]
    rw [renderString, List.cons_append, dropBlanks_gap hgap (by decide)]
    simp only [Bool.true_or, if_true]
    rw [if_neg (by decide), hname]
    rfl
  | false =>
    simp only [row, Bool.false_eq_true, if_false, List.append_assoc, List.cons_append,
      List.nil_append]
    rw [dropBlanks_cons (by decide)]
    simp [readName_rendered hgap, ok_bind, pure, Except.pure]

theorem readColon_colon (s : List Char) : readColon (':' :: s) = .ok s := by
  unfold readColon
  rw [dropBlanks_cons (by decide)]
  simp

/-- The loop over members reads the rest of a row, up to a member whose value faults. -/
theorem toOption_readMembers_row {reader : Reader α} {style : Style} (hclose : Blank close)
    {value : Json → Option α} {ms : List (String × Json)}
    (h : ∀ m ∈ ms, Yields reader (style.inner.text m.2) (value m.2)) (rest : List Char) :
    ∀ (clock : List Char) (done : List (String × α)), ms.length < clock.length →
      (readMembers reader clock done
        (row style.gap done.isEmpty (ms.map style.member) ++ (close ++ '}' :: rest))).toOption =
        (ms.mapM fun m => (value m.2).map (m.1, ·)).map fun as => (done.reverse ++ as, rest) := by
  induction ms with
  | nil =>
    intro clock done hclock
    cases clock with
    | nil => simp at hclock
    | cons k clock =>
      rw [readMembers, List.map_nil, row, List.nil_append, nextName_close _ hclose, ok_bind]
      simp [pure, Except.pure, Except.toOption]
  | cons m ms ih =>
    intro clock done hclock
    cases clock with
    | nil => simp at hclock
    | cons k clock =>
      have hm := h m List.mem_cons_self
      have hends := endsNumber_row style.gap (ms.map style.member) hclose (c := '}') (by decide)
        rest
      rw [readMembers, List.map_cons, Style.member, nextName_row style.blank_gap, ok_bind]
      simp only [List.cons_append, List.append_assoc]
      rw [readColon_colon, ok_bind, toOption_bind, hm.read _ _ style.blank_colonGap hends,
        List.mapM_cons]
      cases value m.2 with
      | none => rfl
      | some a =>
        have hrest := ih (fun c hc => h c (List.mem_cons_of_mem m hc)) clock ((m.1, a) :: done)
          (by simpa using hclock)
        rw [List.isEmpty_cons] at hrest
        simp only [Option.map_some, Option.bind_some]
        rw [hrest]
        cases ms.mapM fun m => (value m.2).map (m.1, ·) <;> simp

theorem length_le_members (style : Style) (ms : List (String × Json)) :
    ms.length ≤ (row style.gap true (ms.map style.member)).length := by
  have hne : ∀ t ∈ ms.map style.member, t ≠ [] := by
    intro t ht
    obtain ⟨m, -, rfl⟩ := List.mem_map.1 ht
    simp [Style.member, renderString]
  simpa using length_le_row style.gap true hne

/-- The members of an object are read behind its brace, with their own text for a clock. -/
theorem toOption_readMembers {reader : Reader α} {style : Style} (hclose : Blank close)
    {value : Json → Option α} {ms : List (String × Json)}
    (h : ∀ m ∈ ms, Yields reader (style.inner.text m.2) (value m.2)) (rest : List Char) :
    (readMembers reader (row style.gap true (ms.map style.member) ++ (close ++ '}' :: rest)) []
      (row style.gap true (ms.map style.member) ++ (close ++ '}' :: rest))).toOption =
      (ms.mapM fun m => (value m.2).map (m.1, ·)).map (·, rest) := by
  have hclock := length_le_members style ms
  refine (toOption_readMembers_row hclose h rest _ [] ?_).trans (by simp)
  simp only [List.length_append, List.length_cons]
  omega

end

end BargeIn.Json
