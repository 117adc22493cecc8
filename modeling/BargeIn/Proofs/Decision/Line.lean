import Mathlib
import BargeIn.Decision
import BargeIn.Proofs.Json.Invariant
import BargeIn.Proofs.Json.RoundTrip
import BargeIn.Proofs.Json.Values

/-!
# Decisions that come back from their lines

A decision is written as one line of JSON, and a line can be read as a decision.  Confidences that
are not finite are written as null: a mean or the confidence in the whole is lost by that, and a
word with null for its confidence is refused, and with it the line.  The metadata comes back as the
values of its members do.  All of this is one equation:

    (Decision.codec.ofText d.line).toOption = d.reread 124    (ofText_line)
-/

namespace BargeIn

open BargeIn.Number BargeIn.Json

/-! ## Words -/

/-- The confidences of an utterance, in the whole and in each word. -/
def Utterance.confidences (u : Utterance) : List Confidence :=
  u.confidence.toList ++ u.words.map HeardWord.confidence

/-- The confidences that stand in the line of a decision. -/
def Decision.confidences (d : Decision) : List Confidence :=
  d.confidence.toList ++ d.utterance.confidences

theorem filter_isFinite_eq_self {c : Option Confidence} :
    c.filter Binary.isFinite = c ↔ ∀ x ∈ c.toList, x.isFinite = true := by
  cases c <;> simp

/-- A confidence that must be there comes back if it is finite. -/
theorem singleCodec_returns_filter (depth : Nat) (c : Confidence) :
    singleCodec.Returns depth c ((some c).filter Binary.isFinite) := by
  rw [Option.filter_some]
  by_cases hc : c.isFinite = true
  · rw [if_pos hc]
    exact singleCodec_returns_self depth hc
  · have hreturns := singleCodec_returns depth c
    rw [if_neg hc] at hreturns ⊢
    exact hreturns

/-- A confidence that may be absent comes back if it is finite, and is lost otherwise. -/
theorem nullable_singleCodec_returns (depth : Nat) (c : Option Confidence) :
    (nullable singleCodec).Returns depth c (some (c.filter Binary.isFinite)) := by
  cases c with
  | none => exact nullable_returns_none depth rfl
  | some c =>
    have hreturns := singleCodec_returns_filter depth c
    rw [Option.filter_some] at hreturns ⊢
    by_cases hc : c.isFinite = true
    · have hnull : ∀ style : Style, (style.text (singleCodec.toJson c)).head? ≠ some 'n' := by
        intro style hn
        obtain ⟨a, t, ht, ha⟩ := (isNumber_renderNumber (n := .single c) hc).head
        rw [show singleCodec.toJson c = .number (.single c) from if_pos hc, Style.text_number, ht,
          List.head?_cons] at hn
        exact (kind_of_startsNumber ha).1 (Option.some.inj hn)
      rw [if_pos hc] at hreturns ⊢
      exact nullable_returns_some hreturns hnull
    · rw [if_neg hc]
      exact nullable_returns_none depth (if_neg hc)

/-- What comes back of a word. -/
def HeardWord.reread (w : HeardWord) : Option HeardWord :=
  ((some w.confidence).filter Binary.isFinite).bind fun c => some { w with confidence := c }

theorem HeardWord.reread_eq_self {w : HeardWord} :
    w.reread = some w ↔ w.confidence.isFinite = true := by
  unfold reread
  rw [Option.filter_some]
  cases w.confidence.isFinite <;> simp

theorem HeardWord.eq_of_reread {w v : HeardWord} (h : w.reread = some v) : v = w := by
  obtain ⟨c, hc, h⟩ := Option.bind_eq_some_iff.1 h
  obtain rfl := Option.some.inj (Option.filter_eq_some_iff.1 hc).1
  exact (Option.some.inj h).symm

theorem HeardWord.codec_returns (depth : Nat) (w : HeardWord) :
    Utterance.wordRecord.codec.Returns (depth + 1) w w.reread :=
  Record.codec_returns (by decide) <|
    .kept (textCodec_returns depth w.word) <|
    .bind (singleCodec_returns_filter depth w.confidence) fun _ => .done _

/-- Tokens that may be absent come back. -/
theorem nullable_texts_returns (depth : Nat) (texts : Option (List String)) :
    (nullable (listCodec textCodec)).Returns (depth + 1) texts (some texts) := by
  cases texts with
  | none => exact nullable_returns_none _ rfl
  | some texts =>
    refine nullable_returns_some (texts_returns depth texts) fun style => ?_
    rw [show (listCodec textCodec).toJson texts = .array (texts.map textCodec.toJson) from rfl,
      Style.text_array]
    simp

/-! ## Utterances -/

namespace Utterance

/-- What comes back of an utterance. -/
def reread (depth : Nat) (u : Utterance) : Option Utterance :=
  (u.words.mapM HeardWord.reread).bind fun words =>
    (rereadMembers depth u.metadata).bind fun metadata =>
      some { u with
        confidence := u.confidence.filter Binary.isFinite
        words := words
        metadata := metadata }

theorem codec_returns (depth : Nat) (u : Utterance) :
    codec.Returns (depth + 3) u (u.reread (depth + 1)) := by
  have htokens := nullable_texts_returns (depth + 1) u.heardTokens
  have hconfidence := nullable_singleCodec_returns (depth + 2) u.confidence
  have hwords : (listCodec wordRecord.codec).Returns (depth + 2) u.words
      (u.words.mapM HeardWord.reread) :=
    listCodec_returns fun w _ => HeardWord.codec_returns depth w
  exact Record.codec_returns (by decide) <|
    .kept (textCodec_returns _ u.text) <|
    .kept htokens <|
    .kept hconfidence <|
    .bind hwords fun _ =>
    .bind (membersCodec_returns (depth + 1) u.metadata) fun _ => .done _

/-- An utterance comes back as it is if its confidences are finite and its metadata comes back. -/
theorem reread_eq_self {depth : Nat} {u : Utterance} :
    u.reread depth = some u ↔
      (∀ c ∈ u.confidences, c.isFinite = true) ∧
        rereadMembers depth u.metadata = some u.metadata := by
  have hwords : u.words.mapM HeardWord.reread = some u.words ↔
      ∀ c ∈ u.words.map HeardWord.confidence, c.isFinite = true := by
    rw [mapM_eq_some_self, List.forall_mem_map]
    exact forall₂_congr fun w _ => HeardWord.reread_eq_self
  rw [confidences, List.forall_mem_append, ← filter_isFinite_eq_self, ← hwords]
  constructor
  · intro h
    obtain ⟨words, hread, h⟩ := Option.bind_eq_some_iff.1 h
    obtain ⟨metadata, hmembers, h⟩ := Option.bind_eq_some_iff.1 h
    -- the fields of what came back are those of `u`
    have hsame := Option.some.inj h
    have hconfidence := congrArg confidence hsame
    obtain rfl : words = u.words := congrArg Utterance.words hsame
    obtain rfl : metadata = u.metadata := congrArg Utterance.metadata hsame
    exact ⟨⟨hconfidence, hread⟩, hmembers⟩
  · rintro ⟨⟨hconfidence, hread⟩, hmembers⟩
    rw [reread, hread, Option.bind_some, hmembers, Option.bind_some, hconfidence]

/-- Texts, tokens and words are never changed. -/
theorem eq_of_reread {depth : Nat} {u v : Utterance} (h : u.reread depth = some v) :
    v = { u with
      confidence := u.confidence.filter Binary.isFinite
      metadata := v.metadata } := by
  obtain ⟨words, hwords, h⟩ := Option.bind_eq_some_iff.1 h
  obtain ⟨metadata, -, h⟩ := Option.bind_eq_some_iff.1 h
  obtain rfl := Option.some.inj h
  obtain rfl := eq_of_mapM (fun _ _ => HeardWord.eq_of_reread) hwords
  rfl

/-- The metadata of an utterance that was read stands as a reader gathers members. -/
theorem gathered_metadata {text : String} {u : Utterance} (h : codec.ofText text = .ok u) :
    Gathered u.metadata := by
  refine record.of_ofText (P := fun u => Gathered u.metadata) gathered_nil
    (fun depth f hf a s b rest ha hread => ?_) h
  simp only [record, List.mem_cons, List.not_mem_nil, or_false] at hf
  -- only the last field touches the metadata
  rcases hf with rfl | rfl | rfl | rfl | rfl <;> obtain ⟨v, hv, rfl⟩ := Field.read_of hread
  · exact ha
  · exact ha
  · exact ha
  · exact ha
  · exact gathered_of_read hv

end Utterance

/-! ## Decisions -/

theorem Outcome.codec_returns (depth : Nat) (o : Outcome) :
    Outcome.codec.Returns depth o (some o) := by
  refine codeCodec_returns ?_ depth
  cases o <;> decide

theorem Reason.codec_returns (depth : Nat) (r : Reason) :
    Reason.codec.Returns depth r (some r) := by
  refine codeCodec_returns ?_ depth
  cases r <;> decide

namespace Decision

/-- What comes back of a decision. -/
def reread (depth : Nat) (d : Decision) : Option Decision :=
  (d.utterance.reread depth).bind fun u =>
    some { d with confidence := d.confidence.filter Binary.isFinite, utterance := u }

theorem codec_returns (depth : Nat) (d : Decision) :
    codec.Returns (depth + 4) d (d.reread (depth + 1)) :=
  Record.codec_returns (by decide) <|
    .kept (Outcome.codec_returns _ d.outcome) <|
    .kept (Reason.codec_returns _ d.reason) <|
    .kept (textCodec_returns _ d.normalizedText) <|
    .kept (texts_returns _ d.matchedTokens) <|
    .kept (nullable_singleCodec_returns _ d.confidence) <|
    .bind (Utterance.codec_returns depth d.utterance) fun _ => .done _

/-- What is read from the line of a decision. -/
theorem ofText_line (d : Decision) : (codec.ofText d.line).toOption = d.reread 124 :=
  (codec_returns 123 d).ofText_compact

/-- Outcome, reason and tokens are never changed, nor what the utterance keeps. -/
theorem eq_of_reread {depth : Nat} {d e : Decision} (h : d.reread depth = some e) :
    e = { d with
      confidence := d.confidence.filter Binary.isFinite
      utterance := { d.utterance with
        confidence := d.utterance.confidence.filter Binary.isFinite
        metadata := e.utterance.metadata } } := by
  obtain ⟨u, hu, h⟩ := Option.bind_eq_some_iff.1 h
  obtain rfl := Option.some.inj h
  rw [← Utterance.eq_of_reread hu]

/-- A decision is read from its line as it is if its confidences are finite and the metadata comes
back. -/
theorem reread_eq_self {depth : Nat} {d : Decision} :
    d.reread depth = some d ↔
      (∀ c ∈ d.confidences, c.isFinite = true) ∧
        rereadMembers depth d.utterance.metadata = some d.utterance.metadata := by
  rw [confidences, List.forall_mem_append, ← filter_isFinite_eq_self, and_assoc,
    ← Utterance.reread_eq_self]
  constructor
  · intro h
    obtain ⟨u, hread, h⟩ := Option.bind_eq_some_iff.1 h
    have hsame := Option.some.inj h
    have hconfidence := congrArg confidence hsame
    obtain rfl : u = d.utterance := congrArg utterance hsame
    exact ⟨hconfidence, hread⟩
  · rintro ⟨hconfidence, hread⟩
    rw [reread, hread, Option.bind_some, hconfidence]

end Decision

end BargeIn
