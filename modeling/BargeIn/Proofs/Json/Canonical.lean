import Mathlib
import BargeIn.Json.Value

/-!
# Canonical values

In a canonical value the names of every object ascend, and none occurs twice.  Members with such
names stay as they are when they are put in order (`ofMembers_of_ascending`), so that a value is
canonical once and for all:

    j.canonical.canonical = j.canonical                                    (canonical_canonical)
-/

namespace BargeIn.Json

/-! ## Members in order -/

section

variable {α : Type}

/-- The names of the members ascend. -/
def Ascending (members : List (String × α)) : Prop := (members.map Prod.fst).Pairwise (· < ·)

theorem ascending_cons {m : String × α} {members : List (String × α)} :
    Ascending (m :: members) ↔ (∀ n ∈ members, m.1 < n.1) ∧ Ascending members := by
  simp [Ascending]

theorem mem_putMember {name : String} {a : α} {m : String × α} {members : List (String × α)}
    (h : m ∈ putMember name a members) : m = (name, a) ∨ m ∈ members := by
  induction members with
  | nil => simpa [putMember] using h
  | cons n members ih =>
    unfold putMember at h
    split at h
    · simpa using h
    · split at h
      · rcases List.mem_cons.1 h with h | h
        · exact .inl h
        · exact .inr (List.mem_cons_of_mem n h)
      · rcases List.mem_cons.1 h with h | h
        · exact .inr (h ▸ List.mem_cons_self)
        · exact (ih h).imp_right (List.mem_cons_of_mem n)

theorem ascending_putMember (name : String) (a : α) {members : List (String × α)}
    (h : Ascending members) : Ascending (putMember name a members) := by
  induction members with
  | nil => simp [putMember, Ascending]
  | cons n members ih =>
    obtain ⟨hn, hmembers⟩ := ascending_cons.1 h
    unfold putMember
    split
    · next hlt =>
      refine ascending_cons.2 ⟨fun m hm => ?_, h⟩
      rcases List.mem_cons.1 hm with rfl | hm
      · exact hlt
      · exact lt_trans hlt (hn m hm)
    · next hlt =>
      split
      · next heq => exact ascending_cons.2 ⟨fun m hm => heq ▸ hn m hm, hmembers⟩
      · next hne =>
        refine ascending_cons.2 ⟨fun m hm => ?_, ih hmembers⟩
        rcases mem_putMember hm with rfl | hm
        · exact lt_of_le_of_ne (not_lt.1 hlt) (Ne.symm hne)
        · exact hn m hm

/-- A member behind all others is put at their end. -/
theorem putMember_of_forall_lt {name : String} {a : α} {members : List (String × α)}
    (h : ∀ m ∈ members, m.1 < name) : putMember name a members = members ++ [(name, a)] := by
  induction members with
  | nil => rfl
  | cons n members ih =>
    obtain ⟨hn, hmembers⟩ := List.forall_mem_cons.1 h
    unfold putMember
    rw [if_neg (lt_asymm hn), if_neg (ne_of_gt hn), ih hmembers]
    rfl

theorem ofMembers_concat (members : List (String × α)) (m : String × α) :
    ofMembers (members ++ [m]) = putMember m.1 m.2 (ofMembers members) := by
  simp [ofMembers]

theorem ascending_ofMembers (members : List (String × α)) : Ascending (ofMembers members) := by
  induction members using List.reverseRecOn with
  | nil => simp [ofMembers, Ascending]
  | append_singleton members m ih =>
    rw [ofMembers_concat]
    exact ascending_putMember m.1 m.2 ih

theorem mem_of_mem_ofMembers {m : String × α} {members : List (String × α)}
    (h : m ∈ ofMembers members) : m ∈ members := by
  induction members using List.reverseRecOn with
  | nil => simp [ofMembers] at h
  | append_singleton members n ih =>
    rw [ofMembers_concat] at h
    rcases mem_putMember h with rfl | h
    · simp
    · exact List.mem_append_left _ (ih h)

theorem ofMembers_of_ascending {members : List (String × α)} (h : Ascending members) :
    ofMembers members = members := by
  induction members using List.reverseRecOn with
  | nil => rfl
  | append_singleton members m ih =>
    unfold Ascending at h ih
    rw [List.map_append, List.pairwise_append] at h
    rw [ofMembers_concat, ih h.1]
    exact putMember_of_forall_lt fun n hn => h.2.2 n.1 (List.mem_map_of_mem hn) m.1 (by simp)

end

/-! ## Canonical values -/

theorem canonicalItems_eq_map (items : List Json) : canonicalItems items = items.map canonical := by
  induction items with
  | nil => rfl
  | cons j items ih => rw [canonicalItems, ih, List.map_cons]

theorem canonicalMembers_eq_map (members : List (String × Json)) :
    canonicalMembers members = members.map fun m => (m.1, m.2.canonical) := by
  induction members with
  | nil => rfl
  | cons m members ih => rw [canonicalMembers, ih, List.map_cons]

theorem canonicalItems_eq_self {items : List Json} :
    canonicalItems items = items ↔ ∀ j ∈ items, j.canonical = j := by
  induction items with
  | nil => simp [canonicalItems]
  | cons j items ih => rw [canonicalItems, List.cons.injEq, List.forall_mem_cons, ih]

theorem canonicalMembers_eq_self {members : List (String × Json)} :
    canonicalMembers members = members ↔ ∀ m ∈ members, m.2.canonical = m.2 := by
  induction members with
  | nil => simp [canonicalMembers]
  | cons m members ih =>
    rw [canonicalMembers, List.cons.injEq, List.forall_mem_cons, ih, Prod.mk.injEq]
    simp

/-- The names of members are not changed by making their values canonical. -/
theorem ascending_canonicalMembers {members : List (String × Json)} :
    Ascending (canonicalMembers members) ↔ Ascending members := by
  rw [canonicalMembers_eq_map, Ascending, List.map_map]
  rfl

/-- Members are canonical if their names ascend and their values are canonical. -/
theorem ofMembers_canonicalMembers_eq_self {members : List (String × Json)} :
    ofMembers (canonicalMembers members) = members ↔
      Ascending members ∧ ∀ m ∈ members, m.2.canonical = m.2 := by
  constructor
  · intro h
    have hascending : Ascending members := h ▸ ascending_ofMembers _
    rw [ofMembers_of_ascending (ascending_canonicalMembers.2 hascending)] at h
    exact ⟨hascending, canonicalMembers_eq_self.1 h⟩
  · rintro ⟨hascending, hvalues⟩
    rw [canonicalMembers_eq_self.2 hvalues, ofMembers_of_ascending hascending]

mutual

/-- A canonical value is canonical. -/
theorem canonical_canonical : (j : Json) → j.canonical.canonical = j.canonical
  | .null => rfl
  | .bool _ => rfl
  | .number _ => rfl
  | .string _ => rfl
  | .array items => by
    rw [canonical, canonical, canonicalItems_canonicalItems items]
  | .object members => by
    rw [canonical, canonical]
    congr 1
    refine ofMembers_canonicalMembers_eq_self.2 ⟨ascending_ofMembers _, fun m hm => ?_⟩
    exact canonical_of_mem_canonicalMembers members m (mem_of_mem_ofMembers hm)

theorem canonicalItems_canonicalItems :
    (items : List Json) → canonicalItems (canonicalItems items) = canonicalItems items
  | [] => rfl
  | j :: rest => by
    rw [canonicalItems, canonicalItems, canonical_canonical j, canonicalItems_canonicalItems rest]

theorem canonical_of_mem_canonicalMembers :
    (members : List (String × Json)) → ∀ m ∈ canonicalMembers members, m.2.canonical = m.2
  | [], m, hm => by simp [canonicalMembers] at hm
  | (name, j) :: rest, m, hm => by
    rw [canonicalMembers] at hm
    rcases List.mem_cons.1 hm with rfl | hm
    · exact canonical_canonical j
    · exact canonical_of_mem_canonicalMembers rest m hm

end

end BargeIn.Json
