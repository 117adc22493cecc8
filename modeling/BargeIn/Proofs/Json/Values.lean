import Mathlib
import BargeIn.Proofs.Json.Invariant
import BargeIn.Proofs.Json.Returns

/-!
# Values that come back

A value of any kind is written and read again.  Words and strings come back, and arrays and objects
with what stands in them, if their brackets are not nested deeper than the reader may go.  A number
comes back as what its text is read as, which need not be the number: doubles are not read exactly,
and numbers that are not finite are written as null.  `reread` is the value that comes back
(`yields_readValue`).

The members of an object that a reader has put in order come back as they are exactly when every
value among them is restored (`rereadMembers_eq_self`).
-/

namespace BargeIn.Json

open BargeIn.Number

/-! ## What comes back -/

/-- The value that is read from the text of a value; what stands inside its brackets comes back by
`inner`, if it may have any. -/
def rereadWith (inner : Option (Json → Option Json)) : Json → Option Json
  | .number n =>
    if n.isFinite then (readNumber (renderNumber n)).toOption.map fun p => .number p.1
    else some .null
  | .array items => inner.bind fun value => (items.mapM value).map .array
  | .object members =>
    inner.bind fun value => (members.mapM fun m => (value m.2).map (m.1, ·)).map .object
  | j => some j

/-- The value that is read from the text of a value with brackets nested at most `depth` deep. -/
def reread : (depth : Nat) → Json → Option Json
  | 0 => rereadWith none
  | depth + 1 => rereadWith (some (reread depth))

/-- The members that are read from the text of an object. -/
def rereadMembers (depth : Nat) (members : List (String × Json)) : Option (List (String × Json)) :=
  (members.mapM fun m : String × Json => (m.2.reread depth).map (m.1, ·)).map fun read =>
    ofMembers (canonicalMembers read)

/-- The number comes back: it is an integer, or its text is read as it. -/
def Numeral.Restored : Json.Numeral → Prop
  | .integer _ => True
  | n => readNumber (renderNumber n) = .ok (n, [])

/-- The value comes back: its brackets are nested at most `depth` deep, and its numbers come
back. -/
def Restored : (depth : Nat) → Json → Prop
  | _, .number n => n.Restored
  | 0, .array _ => False
  | 0, .object _ => False
  | depth + 1, .array items => ∀ j ∈ items, Restored depth j
  | depth + 1, .object members => ∀ m ∈ members, Restored depth m.2
  | _, .null => True
  | _, .bool _ => True
  | _, .string _ => True

/-! ## Reading a value -/

/-- What begins a number begins no other value. -/
theorem kind_of_startsNumber {c : Char} (h : startsNumber c = true) :
    c ≠ 'n' ∧ c ≠ 't' ∧ c ≠ 'f' ∧ c ≠ '"' := by
  refine ⟨?_, ?_, ?_, ?_⟩ <;> rintro rfl <;> revert h <;> decide

section

variable {inner : Option (Reader Json)} {value : Option (Json → Option Json)}

theorem readValueWith_gap {gap : List Char} (hgap : Blank gap) {c : Char} (hc : isBlank c = false)
    (s : List Char) : readValueWith inner (gap ++ c :: s) = readValueWith inner (c :: s) := by
  unfold readValueWith
  rw [dropBlanks_gap hgap hc, dropBlanks_cons hc]

/-- A word is read as the value that it is written for. -/
theorem yields_word {c : Char} {word : List Char} {j : Json} (hc : isBlank c = false)
    (hclose : c ≠ ']')
    (hread : ∀ s, readValueWith inner (c :: s) = readWord word s >>= fun rest => .ok (j, rest)) :
    Yields (readValueWith inner) (c :: word) (some j) := by
  refine ⟨⟨c, word, rfl, hc, hclose⟩, fun gap rest hgap _ => ?_⟩
  rw [List.cons_append, readValueWith_gap hgap hc, hread, readWord_append]
  rfl

theorem yields_null : Yields (readValueWith inner) ('n' :: "ull".toList) (some .null) :=
  yields_word (by decide) (by decide) fun _ => rfl

theorem yields_string (s : String) :
    Yields (readValueWith inner) (renderString s) (some (.string s)) := by
  refine ⟨⟨'"', _, rfl, by decide, by decide⟩, fun gap rest hgap _ => ?_⟩
  unfold renderString
  rw [List.cons_append, readValueWith_gap hgap (by decide), List.append_assoc]
  show ((readString (s.toList.flatMap renderChar ++ ('"' :: rest))) >>= _).toOption = _
  rw [readString_rendered]
  rfl

theorem yields_number (n : Json.Numeral) :
    Yields (readValueWith inner) (renderNumber n) (rereadWith value (.number n)) := by
  cases hn : n.isFinite with
  | true =>
    have hnumber := isNumber_renderNumber hn
    obtain ⟨c, t, htext, hc⟩ := hnumber.head
    obtain ⟨hblank, hclose⟩ := isBlank_of_startsNumber hc
    obtain ⟨hnull, htrue, hfalse, hquote⟩ := kind_of_startsNumber hc
    simp only [rereadWith, hn, if_true]
    rw [htext] at hnumber ⊢
    refine ⟨⟨c, t, rfl, hblank, hclose⟩, fun gap rest hgap hrest => ?_⟩
    have hread := hnumber.readNumber_append hrest
    rw [List.cons_append] at hread
    rw [List.cons_append, readValueWith_gap hgap hblank]
    unfold readValueWith
    rw [dropBlanks_cons hblank]
    simp only [if_neg hnull, if_neg htrue, if_neg hfalse, if_neg hquote, if_pos hc]
    rw [hread, toOption_bind, toOption_map]
    cases (readNumber (c :: t)).toOption <;> rfl
  | false =>
    simp only [rereadWith, hn, renderNumber_of_not_isFinite hn]
    exact yields_null

end

/-- What is read inside of brackets, if they may have any. -/
def Within (inner : Option (Reader Json)) (value : Option (Json → Option Json)) : Prop :=
  Option.Rel (fun reader value => ∀ (j : Json) (style : Style),
    Yields reader (style.text j) (value j)) inner value

section

variable {inner : Option (Reader Json)} {value : Option (Json → Option Json)}

theorem yields_array (h : Within inner value) (items : List Json) (style : Style) :
    Yields (readValueWith inner) (style.text (.array items)) (rereadWith value (.array items)) := by
  rw [Style.text_array]
  refine ⟨⟨'[', _, rfl, by decide, by decide⟩, fun gap rest hgap _ => ?_⟩
  rw [List.cons_append, readValueWith_gap hgap (by decide)]
  cases h with
  | none => rfl
  | @some reader value h =>
    have hread := toOption_readItems style.blank_gap (style.blank_close items)
      (fun j (_ : j ∈ items) => h j style.inner) rest
    simp only [List.append_assoc, List.cons_append, List.nil_append]
    show (readItems reader _ [] _ >>= _).toOption = _
    rw [toOption_bind, hread, rereadWith, Option.bind_some]
    cases items.mapM value <;> rfl

theorem yields_object (h : Within inner value) (members : List (String × Json)) (style : Style) :
    Yields (readValueWith inner) (style.text (.object members))
      (rereadWith value (.object members)) := by
  rw [Style.text_object]
  refine ⟨⟨'{', _, rfl, by decide, by decide⟩, fun gap rest hgap _ => ?_⟩
  rw [List.cons_append, readValueWith_gap hgap (by decide)]
  cases h with
  | none => rfl
  | @some reader value h =>
    have hread := toOption_readMembers (style.blank_close members)
      (fun m (_ : m ∈ members) => h m.2 style.inner) rest
    simp only [List.append_assoc, List.cons_append, List.nil_append]
    show (readMembers reader _ [] _ >>= _).toOption = _
    rw [toOption_bind, hread, rereadWith, Option.bind_some]
    cases members.mapM fun m => (value m.2).map (m.1, ·) <;> rfl

/-- One case for each kind of value. -/
theorem yields_readValueWith (h : Within inner value) (j : Json) (style : Style) :
    Yields (readValueWith inner) (style.text j) (rereadWith value j) := by
  cases j with
  | null =>
    rw [Style.text_null]
    exact yields_null
  | bool b =>
    rw [Style.text_bool]
    cases b with
    | true => exact yields_word (by decide) (by decide) fun _ => rfl
    | false => exact yields_word (by decide) (by decide) fun _ => rfl
  | number n =>
    rw [Style.text_number]
    exact yields_number n
  | string s =>
    rw [Style.text_string]
    exact yields_string s
  | array items => exact yields_array h items style
  | object members => exact yields_object h members style

end

/-- From the text of a value, the reader takes the value that comes back. -/
theorem yields_readValue (depth : Nat) (j : Json) (style : Style) :
    Yields (readValue depth) (style.text j) (j.reread depth) := by
  induction depth generalizing j style with
  | zero => exact yields_readValueWith .none j style
  | succ depth ih => exact yields_readValueWith (.some ih) j style

theorem membersCodec_returns (depth : Nat) (members : List (String × Json)) :
    membersCodec.Returns (depth + 1) members (rereadMembers depth members) := by
  intro style
  simp only [membersCodec, Style.text_object]
  refine ⟨⟨'{', _, rfl, by decide, by decide⟩, fun gap rest hgap _ => ?_⟩
  have hread := toOption_readMembers (style.blank_close members)
    (fun m (_ : m ∈ members) => yields_readValue depth m.2 style.inner) rest
  simp only [List.append_assoc, List.cons_append, List.nil_append]
  rw [dropBlanks_gap hgap (by decide)]
  simp only
  rw [toOption_bind, hread, rereadMembers]
  cases members.mapM fun m : String × Json => (m.2.reread depth).map (m.1, ·) <;> rfl

/-! ## Values that are restored -/

theorem restored_number {n : Json.Numeral} (hfits : n.Fits)
    (value : Option (Json → Option Json)) :
    (rereadWith value (.number n)).map canonical = some (.number n) ↔ n.Restored := by
  have hrestored : n.Restored ↔ readNumber (renderNumber n) = .ok (n, []) := by
    cases n with
    | integer i => exact iff_of_true trivial (readNumber_integer hfits)
    | single x => exact Iff.rfl
    | double x => exact Iff.rfl
  rw [hrestored]
  cases hn : n.isFinite with
  | true =>
    have hend := (isNumber_renderNumber hn).readNumber_append endsNumber_nil
    rw [List.append_nil] at hend
    simp only [rereadWith, hn, if_true]
    cases hread : readNumber (renderNumber n) with
    | error e => simp [Except.toOption]
    | ok p =>
      obtain ⟨m, s⟩ := p
      rw [hread] at hend
      obtain rfl : s = [] := by simpa [Except.map] using hend
      simp [Except.toOption, canonical]
  | false =>
    rw [renderNumber_of_not_isFinite hn]
    simp only [rereadWith, hn]
    constructor
    · intro h
      cases h
    · intro h
      cases h

/-- The names of members come back, whatever comes of their values. -/
theorem names_of_mapM {value : Json → Option Json} {members read : List (String × Json)}
    (h : (members.mapM fun m => (value m.2).map (m.1, ·)) = some read) :
    read.map Prod.fst = members.map Prod.fst := by
  induction members generalizing read with
  | nil =>
    obtain rfl : [] = read := by simpa using h
    rfl
  | cons m members ih =>
    rw [List.mapM_cons] at h
    cases hm : value m.2 with
    | none => simp [hm] at h
    | some j =>
      cases hrest : members.mapM fun m => (value m.2).map (m.1, ·) with
      | none => simp [hm, hrest] at h
      | some rest =>
        obtain rfl : (m.1, j) :: rest = read := by simpa [hm, hrest] using h
        rw [List.map_cons, List.map_cons, ih hrest]

/-- Members in order come back exactly when every value among them does. -/
theorem ofMembers_mapM_eq_self {value : Json → Option Json} {members : List (String × Json)}
    (hascending : Ascending members) :
    ((members.mapM fun m => (value m.2).map (m.1, ·)).map fun read =>
      ofMembers (canonicalMembers read)) = some members ↔
      ∀ m ∈ members, (value m.2).map canonical = some m.2 := by
  have hread : ((members.mapM fun m => (value m.2).map (m.1, ·)).map fun read =>
      ofMembers (canonicalMembers read)) =
      members.mapM fun m => ((value m.2).map (m.1, ·)).map fun m => (m.1, m.2.canonical) := by
    rw [← map_mapM]
    cases h : members.mapM fun m => (value m.2).map (m.1, ·) with
    | none => rfl
    | some read =>
      -- the names that were read are those that were written, and so they ascend
      have hnames : Ascending read := by
        rw [Ascending, names_of_mapM h]
        exact hascending
      rw [Option.map_some, Option.map_some,
        ofMembers_of_ascending (ascending_canonicalMembers.2 hnames), canonicalMembers_eq_map]
  rw [hread, mapM_eq_some_self]
  refine forall₂_congr fun m _ => ?_
  cases value m.2 with
  | none => simp
  | some j => simp [Prod.ext_iff]

/-- A canonical value comes back exactly when it is restored. -/
theorem reread_eq_self {depth : Nat} {j : Json} (hj : j.canonical = j) (hfits : j.Fits) :
    (j.reread depth).map canonical = some j ↔ j.Restored depth := by
  induction depth generalizing j with
  | zero =>
    cases hfits with
    | number hn => exact restored_number hn none
    | _ => simp [reread, rereadWith, Restored, canonical]
  | succ depth ih =>
    cases hfits with
    | number hn => exact restored_number hn _
    | @array items hfits =>
      rw [canonical, Json.array.injEq] at hj
      have hitems := canonicalItems_eq_self.1 hj
      have hread : ((Json.array items).reread (depth + 1)).map canonical =
          ((items.mapM (reread depth)).map (List.map canonical)).map .array := by
        rw [reread, rereadWith, Option.bind_some]
        cases items.mapM (reread depth) with
        | none => rfl
        | some read => simp [canonical, canonicalItems_eq_map]
      have harray := Option.map_injective fun _ _ h => Json.array.inj h
      rw [hread, map_mapM, ← Option.map_some, harray.eq_iff, mapM_eq_some_self]
      exact forall₂_congr fun j hmem => ih (hitems j hmem) (hfits j hmem)
    | @object members hfits =>
      rw [canonical, Json.object.injEq] at hj
      obtain ⟨hascending, hvalues⟩ := ofMembers_canonicalMembers_eq_self.1 hj
      have hread : ((Json.object members).reread (depth + 1)).map canonical =
          (rereadMembers depth members).map .object := by
        rw [reread, rereadWith, Option.bind_some, rereadMembers]
        cases members.mapM fun m => (reread depth m.2).map (m.1, ·) <;> rfl
      have hobject := Option.map_injective fun _ _ h => Json.object.inj h
      rw [hread, ← Option.map_some, hobject.eq_iff, rereadMembers,
        ofMembers_mapM_eq_self hascending]
      exact forall₂_congr fun m hm => ih (hvalues m hm) (hfits m hm)
    | _ => simp [reread, rereadWith, Restored, canonical]

/-- Members that were read come back exactly when their values are restored. -/
theorem rereadMembers_eq_self {depth : Nat} {members : List (String × Json)}
    (h : Gathered members) :
    rereadMembers depth members = some members ↔ ∀ m ∈ members, m.2.Restored depth := by
  obtain ⟨hascending, hvalues⟩ := ofMembers_canonicalMembers_eq_self.1 h.canonical
  rw [rereadMembers, ofMembers_mapM_eq_self hascending]
  exact forall₂_congr fun m hm => reread_eq_self (hvalues m hm) (h.fits m hm)

end BargeIn.Json
