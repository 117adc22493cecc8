import Mathlib
import BargeIn.Json.Codec
import BargeIn.Proofs.Json.Outcome

/-!
# What comes back through a codec

A value is written by a codec and its text is read by the same codec.  What comes back, if anything
does, is the same in either style and wherever the text stands (`Codec.Returns`).  Texts and codes
come back as they are; a single comes back as the single of its own text, and one that is not finite
does not come back, unless it may be absent: then it is lost.  Lists come back item by item, and
records field by field (`Record.Refills`).
-/

namespace BargeIn.Json

open BargeIn.Number

variable {α β : Type}

/-- What the codec writes of `a` comes back as `o`. -/
def Codec.Returns (codec : Codec α) (depth : Nat) (a : α) (o : Option α) : Prop :=
  ∀ style : Style, Yields (codec.read depth) (style.text (codec.toJson a)) o

/-! ## Plain values -/

theorem textCodec_returns (depth : Nat) (s : String) : textCodec.Returns depth s (some s) := by
  intro style
  simp only [textCodec, Style.text_string, renderString]
  refine ⟨⟨'"', _, rfl, by decide, by decide⟩, fun gap rest hgap _ => ?_⟩
  simp only [List.cons_append, List.append_assoc, List.nil_append]
  rw [dropBlanks_gap hgap (by decide)]
  simp only [readString_rendered]
  rfl

theorem readWord_append (word s : List Char) : readWord word (word ++ s) = .ok s := by
  induction word with
  | nil => rfl
  | cons c word ih => simp [readWord, ih]

theorem isBlank_of_startsNumber {c : Char} (h : startsNumber c = true) :
    isBlank c = false ∧ c ≠ ']' := by
  constructor
  · by_contra hb
    simp only [isBlank, Bool.not_eq_false, Bool.or_eq_true, beq_iff_eq] at hb
    rcases hb with ((rfl | rfl) | rfl) | rfl <;> revert h <;> decide
  · rintro rfl
    revert h
    decide

/-- A single comes back as that of the number which its text is read as, if it is finite. -/
theorem singleCodec_returns (depth : Nat) (x : Binary binary32) :
    singleCodec.Returns depth x (if x.isFinite = true then
      (readNumber (renderNumber (.single x))).toOption.map fun p => p.1.toSingle else none) := by
  intro style
  by_cases hx : x.isFinite = true
  · have hnumber : IsNumber (renderNumber (.single x)) := isNumber_renderNumber (n := .single x) hx
    obtain ⟨c, t, htext, hc⟩ := hnumber.head
    obtain ⟨hblank, hclose⟩ := isBlank_of_startsNumber hc
    simp only [singleCodec, if_pos hx, Style.text_number]
    rw [htext] at hnumber ⊢
    refine ⟨⟨c, t, rfl, hblank, hclose⟩, fun gap rest hgap hrest => ?_⟩
    have hread := hnumber.readNumber_append hrest
    simp only [List.cons_append] at hread ⊢
    rw [dropBlanks_gap hgap hblank]
    simp only [if_pos hc]
    rw [hread, toOption_bind, toOption_map]
    cases (readNumber (c :: t)).toOption <;> rfl
  · simp only [singleCodec, if_neg hx, Style.text_null]
    refine ⟨⟨'n', _, rfl, by decide, by decide⟩, fun gap rest hgap _ => ?_⟩
    rw [List.cons_append, dropBlanks_gap hgap (by decide)]
    rfl

/-! ## Values that may be absent -/

/-- What is written as null comes back as absent. -/
theorem nullable_returns_none {codec : Codec α} (depth : Nat) {a : Option α}
    (h : (nullable codec).toJson a = .null) : (nullable codec).Returns depth a (some none) := by
  intro style
  rw [h, Style.text_null]
  refine ⟨⟨'n', _, rfl, by decide, by decide⟩, fun gap rest hgap _ => ?_⟩
  simp only [nullable, List.cons_append]
  rw [dropBlanks_gap hgap (by decide)]
  simp only [readWord_append]
  rfl

/-- A value that is present comes back as it would by itself, if its text is not taken for null. -/
theorem nullable_returns_some {codec : Codec α} {depth : Nat} {a : α} {o : Option α}
    (h : codec.Returns depth a o)
    (hnull : ∀ style : Style, (style.text (codec.toJson a)).head? ≠ some 'n') :
    (nullable codec).Returns depth (some a) (o.map some) := by
  intro style
  have hhead := hnull style
  obtain ⟨c, t, htext, hc, hclose⟩ := (h style).head
  simp only [nullable]
  rw [htext] at hhead ⊢
  refine ⟨⟨c, t, rfl, hc, hclose⟩, fun gap rest hgap hrest => ?_⟩
  have hread := (h style).read_here hrest
  rw [htext, List.cons_append] at hread
  rw [List.cons_append, dropBlanks_gap hgap hc]
  split
  · next heq =>
    obtain ⟨rfl, -⟩ := List.cons.inj heq
    exact absurd rfl hhead
  · rw [toOption_bind, hread]
    cases o <;> rfl

/-! ## Lists -/

theorem listCodec_returns {codec : Codec α} {depth : Nat} {as : List α} {value : α → Option α}
    (h : ∀ a ∈ as, codec.Returns depth a (value a)) :
    (listCodec codec).Returns (depth + 1) as (as.mapM value) := by
  intro style
  have hitems : ∀ a ∈ as, Yields (codec.read depth) (style.inner.text (codec.toJson a)) (value a) :=
    fun a ha => h a ha style.inner
  simp only [listCodec, Style.text_array, List.map_map]
  refine ⟨⟨'[', _, rfl, by decide, by decide⟩, fun gap rest hgap _ => ?_⟩
  simp only [List.cons_append, List.append_assoc, List.nil_append]
  rw [dropBlanks_gap hgap (by decide)]
  exact toOption_readItems style.blank_gap (style.blank_close _) hitems rest

/-! ## Codes -/

/-- A code comes back as its value if that is the first one that has it. -/
theorem codeCodec_returns {code : α → String} {all : List α} {a : α}
    (h : all.find? (fun b => code b == code a) = some a) (depth : Nat) :
    (codeCodec code all).Returns depth a (some a) := by
  intro style
  simp only [codeCodec, Style.text_string, renderString]
  refine ⟨⟨'"', _, rfl, by decide, by decide⟩, fun gap rest hgap _ => ?_⟩
  simp only [List.cons_append, List.append_assoc, List.nil_append]
  rw [dropBlanks_gap hgap (by decide)]
  simp only [readString_rendered, ok_bind, h]
  rfl

/-! ## Records -/

/-- What comes of a field is stored. -/
theorem Field.yields_of {codec : Codec β} {depth : Nat} {get : α → β} {a : α} {o : Option β}
    (h : codec.Returns depth (get a) o) (name : String) (set : β → α → α) (i j : Bool) (b : α)
    (style : Style) :
    Yields ((Field.of name codec get set i j).read depth b)
      (style.text ((Field.of name codec get set i j).view a)) (o.map (set · b)) := by
  refine ⟨(h style).head, fun gap rest hgap hrest => ?_⟩
  simp only [Field.of]
  rw [toOption_bind, (h style).read gap rest hgap hrest]
  cases o <;> rfl

namespace Record

/-- Given the texts of its fields one after the other, a record is filled in from `b` to what is
left if no field faults. -/
inductive Refills (depth : Nat) (a : α) : List (Field α) → α → Option α → Prop
  | done (b : α) : Refills depth a [] b (some b)
  | field {f : Field α} {fs : List (Field α)} {b b' : α} {o : Option α} :
      (∀ style : Style, Yields (f.read depth b) (style.text (f.view a)) (some b')) →
      Refills depth a fs b' o → Refills depth a (f :: fs) b o
  | fault {f : Field α} {fs : List (Field α)} {b : α} :
      (∀ style : Style, Yields (f.read depth b) (style.text (f.view a)) none) →
      Refills depth a (f :: fs) b none

/-- The field comes back as `v`, and the record is filled in from there. -/
theorem Refills.kept {depth : Nat} {a b : α} {codec : Codec β} {name : String} {get : α → β}
    {set : β → α → α} {i j : Bool} {fs : List (Field α)} {v : β} {o : Option α}
    (h : codec.Returns depth (get a) (some v)) (hrest : Refills depth a fs (set v b) o) :
    Refills depth a (Field.of name codec get set i j :: fs) b o :=
  .field (Field.yields_of h name set i j b) hrest

/-- The field comes back as something or it faults. -/
theorem Refills.bind {depth : Nat} {a b : α} {codec : Codec β} {name : String} {get : α → β}
    {set : β → α → α} {i j : Bool} {fs : List (Field α)} {o : Option β} {next : β → Option α}
    (h : codec.Returns depth (get a) o) (hrest : ∀ v, Refills depth a fs (set v b) (next v)) :
    Refills depth a (Field.of name codec get set i j :: fs) b (o.bind next) := by
  cases o with
  | none => exact .fault (Field.yields_of h name set i j b)
  | some v => exact .kept h (hrest v)

theorem find?_name {fields : List (Field α)} (hnames : (fields.map Field.name).Nodup)
    {f : Field α} (hf : f ∈ fields) : fields.find? (fun g => g.name == f.name) = some f := by
  induction fields with
  | nil => exact absurd hf List.not_mem_nil
  | cons g fields ih =>
    rw [List.map_cons, List.nodup_cons] at hnames
    rcases List.mem_cons.1 hf with rfl | hf
    · simp
    · have hne : g.name ≠ f.name := by
        intro he
        exact hnames.1 (he ▸ List.mem_map_of_mem hf)
      rw [List.find?_cons_of_neg (by simpa using hne)]
      exact ih hnames.2 hf

theorem complete_of_names {R : Record α} {seen : List String}
    (h : ∀ f ∈ R.fields, f.name ∈ seen) : R.complete seen = true := by
  unfold complete
  rw [List.all_eq_true]
  intro f hf
  simp [h f hf]

variable {R : Record α} {depth : Nat} {a : α} {o : Option α} {style : Style}
  {close rest : List Char}

/-- The loop over members reads one field from a row, and its name has been seen from now on. -/
theorem readObject_member (hnames : (R.fields.map Field.name).Nodup) {f : Field α}
    (hf : f ∈ R.fields) {seen : List String} (hseen : f.name ∉ seen) (k : Char)
    (clock : List Char) (first : Bool) (b : α) (ts : List (List Char)) (s : List Char) :
    R.readObject depth (k :: clock) first seen b
        (row style.gap first (style.member (f.name, f.view a) :: ts) ++ s) =
      (f.read depth b
        (style.colonGap ++ (style.inner.text (f.view a) ++ (row style.gap false ts ++ s))) >>=
          fun p => R.readObject depth clock false (f.name :: seen) p.1 p.2) := by
  rw [readObject, Style.member, nextName_row style.blank_gap, ok_bind]
  simp only [find?_name hnames hf, List.contains_eq_mem, hseen, decide_false,
    Bool.false_eq_true, if_false, List.cons_append, List.append_assoc]
  rw [readColon_colon, ok_bind]

/-- The loop over members reads the rest of a row into the fields that it belongs to. -/
theorem toOption_readObject_row (hnames : (R.fields.map Field.name).Nodup) (hclose : Blank close)
    {fs : List (Field α)} {b : α} (h : Refills depth a fs b o) :
    ∀ {clock : List Char} {first : Bool} {seen : List String}, fs.length < clock.length →
      (fs.map Field.name).Nodup → (∀ f ∈ fs, f ∈ R.fields ∧ f.name ∉ seen) →
      (∀ f ∈ R.fields, f.name ∈ seen ∨ f ∈ fs) →
      (R.readObject depth clock first seen b
        (row style.gap first (fs.map fun f => style.member (f.name, f.view a)) ++
          (close ++ '}' :: rest))).toOption = o.map (·, rest) := by
  induction h with
  | done b =>
    intro clock first seen hclock _ _ hall
    cases clock with
    | nil => simp at hclock
    | cons k clock =>
      have hseen : ∀ f ∈ R.fields, f.name ∈ seen :=
        fun f hf => (hall f hf).resolve_right List.not_mem_nil
      rw [readObject, List.map_nil, row, List.nil_append, nextName_close _ hclose, ok_bind]
      simp only [complete_of_names hseen, if_true]
      rfl
  | @field f fs b b' o hyields _ ih =>
    intro clock first seen hclock hnodup hfs hall
    cases clock with
    | nil => simp at hclock
    | cons k clock =>
      obtain ⟨hmem, hseen⟩ := hfs f List.mem_cons_self
      rw [List.map_cons, List.nodup_cons] at hnodup
      have hends := endsNumber_row style.gap (fs.map fun f => style.member (f.name, f.view a))
        hclose (c := '}') (by decide) rest
      rw [List.map_cons, readObject_member hnames hmem hseen, toOption_bind,
        (hyields style.inner).read _ _ style.blank_colonGap hends]
      apply ih (by simpa using hclock) hnodup.2
      · intro g hg
        obtain ⟨hgmem, hgseen⟩ := hfs g (List.mem_cons_of_mem _ hg)
        refine ⟨hgmem, fun hin => ?_⟩
        rcases List.mem_cons.1 hin with he | hin
        · exact hnodup.1 (he ▸ List.mem_map_of_mem hg)
        · exact hgseen hin
      · intro g hg
        rcases hall g hg with hin | hin
        · exact Or.inl (List.mem_cons_of_mem _ hin)
        · rcases List.mem_cons.1 hin with rfl | hin
          · exact Or.inl List.mem_cons_self
          · exact Or.inr hin
  | @fault f fs b hyields =>
    intro clock first seen hclock _ hfs _
    cases clock with
    | nil => simp at hclock
    | cons k clock =>
      obtain ⟨hmem, hseen⟩ := hfs f List.mem_cons_self
      have hends := endsNumber_row style.gap (fs.map fun f => style.member (f.name, f.view a))
        hclose (c := '}') (by decide) rest
      rw [List.map_cons, readObject_member hnames hmem hseen, toOption_bind,
        (hyields style.inner).read _ _ style.blank_colonGap hends]
      rfl

/-- A record comes back field by field. -/
theorem codec_returns (hnames : (R.fields.map Field.name).Nodup)
    (h : Refills depth a R.fields R.blank o) : R.codec.Returns (depth + 1) a o := by
  intro style
  simp only [codec, Style.text_object, List.map_map]
  refine ⟨⟨'{', _, rfl, by decide, by decide⟩, fun gap rest hgap _ => ?_⟩
  simp only [List.cons_append, List.append_assoc, List.nil_append]
  rw [dropBlanks_gap hgap (by decide)]
  simp only
  have hclock := length_le_members style (R.fields.map fun f => (f.name, f.view a))
  rw [List.map_map] at hclock
  apply toOption_readObject_row hnames (style.blank_close _) h
  · rw [List.length_map] at hclock
    exact Nat.lt_of_le_of_lt hclock (by simp [Function.comp_def])
  · exact hnames
  · exact fun f hf => ⟨hf, List.not_mem_nil⟩
  · exact fun f hf => Or.inr hf

end Record

/-! ## Documents -/

theorem Codec.Returns.readDocument {codec : Codec α} {a : α} {o : Option α}
    (h : codec.Returns maxDepth a o) (style : Style) :
    (readDocument codec.read (style.text (codec.toJson a))).toOption = o := by
  have hread := (h style).read_here endsNumber_nil
  rw [List.append_nil] at hread
  unfold Json.readDocument
  rw [toOption_bind, hread]
  cases o <;> rfl

/-- What comes back from a document without blanks. -/
theorem Codec.Returns.ofText_compact {codec : Codec α} {a : α} {o : Option α}
    (h : codec.Returns maxDepth a o) : (codec.ofText (codec.toJson a).compact).toOption = o := by
  unfold Codec.ofText compact
  rw [String.toList_ofList]
  exact h.readDocument .compact

end BargeIn.Json
