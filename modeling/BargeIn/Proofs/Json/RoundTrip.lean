import Mathlib
import BargeIn.Proofs.Json.ReadBack
import BargeIn.Proofs.Json.Returns

/-!
# Values that come back as they are

Texts come back as they are, finite singles do, and lists of what comes back by itself.  A value
that comes back as it is survives a whole document (`Codec.Returns.ofText_pretty`).
-/

namespace BargeIn.Json

open BargeIn.Number

variable {α : Type}

theorem singleCodec_returns_self (depth : Nat) {x : Binary binary32} (hx : x.isFinite = true) :
    singleCodec.Returns depth x (some x) := by
  obtain ⟨n, hn, hsingle⟩ := readsBack_of_isFinite hx
  have hreturns := singleCodec_returns depth x
  rw [if_pos hx, hn] at hreturns
  simpa only [Except.toOption, Option.map_some, hsingle] using hreturns

theorem listCodec_returns_self {codec : Codec α} {depth : Nat} {as : List α}
    (h : ∀ a ∈ as, codec.Returns depth a (some a)) :
    (listCodec codec).Returns (depth + 1) as (some as) := by
  have hreturns := listCodec_returns h
  rwa [mapM_eq_some_self.2 fun _ _ => rfl] at hreturns

theorem texts_returns (depth : Nat) (texts : List String) :
    (listCodec textCodec).Returns (depth + 1) texts (some texts) :=
  listCodec_returns_self fun t _ => textCodec_returns depth t

/-- What comes back as it is survives a document in lines. -/
theorem Codec.Returns.ofText_pretty {codec : Codec α} {a : α}
    (h : codec.Returns maxDepth a (some a)) : codec.ofText (codec.toJson a).pretty = .ok a := by
  have hread := h.readDocument (.lines 0)
  unfold Codec.ofText pretty
  rw [String.toList_ofList]
  exact toOption_eq_some.1 hread

end BargeIn.Json
