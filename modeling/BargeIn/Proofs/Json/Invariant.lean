import Mathlib
import BargeIn.Json.Codec
import BargeIn.Proofs.Json.Canonical
import BargeIn.Proofs.Json.Integers

/-!
# What holds of everything that is read

A record is read field by field, from an object or from an array, starting from the blank record.
So what holds of the blank record and is kept by every field holds of every record that is read
(`Record.of_read`).  Likewise what holds of every item or value that is read holds of all that are
read in a row.

The members of an object stand by ascending names when they have been read, with canonical values
whose numbers fit (`gathered_of_read`).
-/

namespace BargeIn.Json

variable {α β : Type}

namespace Record

variable {R : Record α} {P : α → Prop} {depth : Nat}

/-- Reading any of the fields keeps `P`. -/
def Keeps (P : α → Prop) (depth : Nat) (fields : List (Field α)) : Prop :=
  ∀ f ∈ fields, ∀ a s b rest, P a → f.read depth a s = .ok (b, rest) → P b

theorem of_readObject (hkeeps : Keeps P depth R.fields) :
    ∀ {clock : List Char} {first : Bool} {seen : List String} {a b : α} {s rest : List Char},
      P a → R.readObject depth clock first seen a s = .ok (b, rest) → P b := by
  intro clock
  induction clock with
  | nil =>
    intro first seen a b s rest _ h
    cases h
  | cons k clock ih =>
    intro first seen a b s rest ha h
    rw [readObject] at h
    obtain ⟨⟨name?, s'⟩, -, h⟩ := bind_eq_ok.1 h
    cases name? with
    | none =>
      simp only at h
      split at h
      · cases h
        exact ha
      · cases h
    | some name =>
      simp only at h
      split at h
      · -- an unknown member is passed over
        obtain ⟨t, -, h⟩ := bind_eq_ok.1 h
        obtain ⟨t', -, h⟩ := bind_eq_ok.1 h
        exact ih ha h
      · next f hf =>
        split at h
        · cases h
        · obtain ⟨t, -, h⟩ := bind_eq_ok.1 h
          obtain ⟨⟨b', t'⟩, hread, h⟩ := bind_eq_ok.1 h
          exact ih (hkeeps f (List.mem_of_find?_eq_some hf) a t b' t' ha hread) h

theorem of_readArray {fields : List (Field α)} (hkeeps : Keeps P depth fields) :
    ∀ {first : Bool} {a b : α} {s rest : List Char},
      P a → readArray depth fields first a s = .ok (b, rest) → P b := by
  induction fields with
  | nil =>
    intro first a b s rest ha h
    rw [readArray] at h
    split at h
    · cases h
    · split at h
      · cases h
        exact ha
      · cases h
  | cons f fields ih =>
    intro first a b s rest ha h
    rw [readArray] at h
    obtain ⟨⟨more, s'⟩, -, h⟩ := bind_eq_ok.1 h
    cases more with
    | false =>
      simp only at h
      split at h
      · cases h
      · cases h
        exact ha
    | true =>
      obtain ⟨⟨b', t⟩, hread, h⟩ := bind_eq_ok.1 h
      have hb' := hkeeps f List.mem_cons_self a s' b' t ha hread
      exact ih (fun g hg => hkeeps g (List.mem_cons_of_mem f hg)) hb' h

theorem of_read (hblank : P R.blank) (hkeeps : ∀ depth, Keeps P depth R.fields) {a : α}
    {s rest : List Char} (h : R.codec.read depth s = .ok (a, rest)) : P a := by
  simp only [codec] at h
  split at h
  · cases h
  · cases h
  · exact of_readArray (hkeeps _) hblank h
  · exact of_readObject (hkeeps _) hblank h
  · cases h

theorem of_ofText (hblank : P R.blank) (hkeeps : ∀ depth, Keeps P depth R.fields) {a : α}
    {s : String} (h : R.codec.ofText s = .ok a) : P a := by
  unfold Codec.ofText readDocument at h
  obtain ⟨⟨b, rest⟩, hread, h⟩ := bind_eq_ok.1 h
  simp only at h
  split at h
  · cases h
    exact of_read hblank hkeeps hread
  · cases h

end Record

/-- A field stores a value of its codec. -/
theorem Field.read_of {codec : Codec β} {name : String} {get : α → β} {set : β → α → α}
    {i j : Bool} {depth : Nat} {a b : α} {s rest : List Char}
    (h : (Field.of name codec get set i j).read depth a s = .ok (b, rest)) :
    ∃ v, codec.read depth s = .ok (v, rest) ∧ set v a = b := by
  obtain ⟨⟨v, t⟩, hread, h⟩ := bind_eq_ok.1 h
  cases h
  exact ⟨v, hread, rfl⟩

/-! ## Rows -/

theorem forall_of_readItems {reader : Reader α} {P : α → Prop}
    (hitem : ∀ s a rest, reader s = .ok (a, rest) → P a) :
    ∀ {clock : List Char} {done as : List α} {s rest : List Char},
      (∀ a ∈ done, P a) → readItems reader clock done s = .ok (as, rest) → ∀ a ∈ as, P a := by
  intro clock
  induction clock with
  | nil =>
    intro done as s rest _ h
    cases h
  | cons k clock ih =>
    intro done as s rest hdone h
    rw [readItems] at h
    obtain ⟨⟨more, t⟩, -, h⟩ := bind_eq_ok.1 h
    cases more with
    | false =>
      cases h
      exact fun a ha => hdone a (List.mem_reverse.1 ha)
    | true =>
      obtain ⟨⟨a, u⟩, ha, h⟩ := bind_eq_ok.1 h
      exact ih (List.forall_mem_cons.2 ⟨hitem t a u ha, hdone⟩) h

theorem forall_of_readMembers {reader : Reader α} {P : α → Prop}
    (hvalue : ∀ s a rest, reader s = .ok (a, rest) → P a) :
    ∀ {clock : List Char} {done as : List (String × α)} {s rest : List Char},
      (∀ m ∈ done, P m.2) → readMembers reader clock done s = .ok (as, rest) →
      ∀ m ∈ as, P m.2 := by
  intro clock
  induction clock with
  | nil =>
    intro done as s rest _ h
    cases h
  | cons k clock ih =>
    intro done as s rest hdone h
    rw [readMembers] at h
    obtain ⟨⟨name?, t⟩, -, h⟩ := bind_eq_ok.1 h
    cases name? with
    | none =>
      cases h
      exact fun m hm => hdone m (List.mem_reverse.1 hm)
    | some name =>
      obtain ⟨u, -, h⟩ := bind_eq_ok.1 h
      obtain ⟨⟨a, v⟩, ha, h⟩ := bind_eq_ok.1 h
      exact ih (List.forall_mem_cons.2 ⟨hvalue u a v ha, hdone⟩) h

/-! ## Values -/

/-- Every number in the value fits. -/
inductive Fits : Json → Prop
  | null : Fits .null
  | bool (b : Bool) : Fits (.bool b)
  | number {n : Json.Numeral} (h : n.Fits) : Fits (.number n)
  | string (s : String) : Fits (.string s)
  | array {items : List Json} (h : ∀ j ∈ items, Fits j) : Fits (.array items)
  | object {members : List (String × Json)} (h : ∀ m ∈ members, Fits m.2) : Fits (.object members)

theorem fits_of_readValueWith {inner : Option (Reader Json)}
    (hinner : ∀ reader ∈ inner, ∀ s j rest, reader s = .ok (j, rest) → j.Fits) {s rest : List Char}
    {j : Json} (h : readValueWith inner s = .ok (j, rest)) : j.Fits := by
  unfold readValueWith at h
  split at h
  · cases h
  split at h
  · obtain ⟨t, -, h⟩ := bind_eq_ok.1 h
    cases h
    exact .null
  split at h
  · obtain ⟨t, -, h⟩ := bind_eq_ok.1 h
    cases h
    exact .bool true
  split at h
  · obtain ⟨t, -, h⟩ := bind_eq_ok.1 h
    cases h
    exact .bool false
  split at h
  · obtain ⟨⟨u, t⟩, -, h⟩ := bind_eq_ok.1 h
    cases h
    exact .string u
  split at h
  · obtain ⟨⟨n, t⟩, hn, h⟩ := bind_eq_ok.1 h
    cases h
    exact .number (fits_of_readNumber hn)
  split at h
  · cases h
  · next reader =>
    have hvalue := hinner reader rfl
    split at h
    · obtain ⟨⟨items, t⟩, hitems, h⟩ := bind_eq_ok.1 h
      cases h
      exact .array (forall_of_readItems hvalue (by simp) hitems)
    split at h
    · obtain ⟨⟨members, t⟩, hmembers, h⟩ := bind_eq_ok.1 h
      cases h
      exact .object (forall_of_readMembers hvalue (by simp) hmembers)
    · cases h

theorem fits_of_readValue {depth : Nat} {s rest : List Char} {j : Json}
    (h : readValue depth s = .ok (j, rest)) : j.Fits := by
  induction depth generalizing s rest j with
  | zero => exact fits_of_readValueWith (fun _ hreader => by cases hreader) h
  | succ depth ih =>
    refine fits_of_readValueWith (fun reader hreader s j rest h => ?_) h
    cases hreader
    exact ih h

theorem fits_of_mem_ofMembers {members : List (String × Json)}
    (h : ∀ m ∈ members, m.2.canonical.Fits) {m : String × Json}
    (hm : m ∈ ofMembers (canonicalMembers members)) : m.2.Fits := by
  have hmem := mem_of_mem_ofMembers hm
  rw [canonicalMembers_eq_map] at hmem
  obtain ⟨n, hn, rfl⟩ := List.mem_map.1 hmem
  exact h n hn

theorem Fits.canonical {j : Json} (h : j.Fits) : j.canonical.Fits := by
  induction h with
  | null => exact .null
  | bool b => exact .bool b
  | number hn => exact .number hn
  | string s => exact .string s
  | array _ ih =>
    rw [Json.canonical, canonicalItems_eq_map]
    exact .array (List.forall_mem_map.2 ih)
  | object _ ih =>
    rw [Json.canonical]
    exact .object fun m hm => fits_of_mem_ofMembers ih hm

/-- Members as a reader gives them: by ascending names, with canonical values whose numbers fit. -/
structure Gathered (members : List (String × Json)) : Prop where
  canonical : ofMembers (canonicalMembers members) = members
  fits : ∀ m ∈ members, m.2.Fits

theorem gathered_nil : Gathered [] := ⟨rfl, by simp⟩

theorem gathered_of_read {depth : Nat} {s rest : List Char} {members : List (String × Json)}
    (h : membersCodec.read depth s = .ok (members, rest)) : Gathered members := by
  simp only [membersCodec] at h
  split at h
  · cases h
  · obtain ⟨⟨read, t⟩, hread, h⟩ := bind_eq_ok.1 h
    cases h
    have hfits := forall_of_readMembers (P := Fits) (fun _ _ _ => fits_of_readValue) (by simp) hread
    exact ⟨Json.object.inj (canonical_canonical (.object read)),
      fun m hm => fits_of_mem_ofMembers (fun n hn => (hfits n hn).canonical) hm⟩
  · cases h

end BargeIn.Json
