import TransitionGuards.Guard.Meaning
import TransitionGuards.Witness
import TransitionGuards.Proofs.Distinct
import Mathlib.Data.String.Basic

/-
  What a witness says about named values.

  A witness that `Lists` some names has one entry for each of them, in the
  order of the names, and no other entry. It `Shows` a valuation that agrees
  with all its entries; there is one, as no name has two entries.
-/

namespace TransitionGuards

namespace Witness
variable {w : Witness} {names : String → Prop} {name : String} {v : Int64}

/-- Whether the witness has one entry for each of the names, in their order,
and no other. -/
structure Lists (w : Witness) (names : String → Prop) : Prop where
  sorted : w.entries.Pairwise (·.1 < ·.1)
  names_iff : ∀ name, (∃ v, (name, v) ∈ w.entries) ↔ names name

/-- Whether the values are those of the witness, as far as it has any. -/
def Shows (w : Witness) (σ : Valuation) : Prop := ∀ e ∈ w.entries, σ e.1 = e.2

theorem mem_ofList {entries : List (String × Int64)} {e : String × Int64} :
    e ∈ (ofList entries).entries ↔ e ∈ entries := List.mem_mergeSort

theorem sorted_ofList {entries : List (String × Int64)} (distinct : (entries.map (·.1)).Nodup) :
    (ofList entries).entries.Pairwise (·.1 < ·.1) := by
  have trans : ∀ a b c : String × Int64, decide (a.1 ≤ b.1) → decide (b.1 ≤ c.1) → decide (a.1 ≤ c.1) := by
    intro a b c hab hbc
    exact decide_eq_true (le_trans (of_decide_eq_true hab) (of_decide_eq_true hbc))
  have total : ∀ a b : String × Int64, decide (a.1 ≤ b.1) || decide (b.1 ≤ a.1) := by
    intro a b
    simpa using le_total a.1 b.1
  have sorted : (ofList entries).entries.Pairwise fun a b => decide (a.1 ≤ b.1) :=
    List.pairwise_mergeSort trans total entries
  have perm : ((ofList entries).entries.map (·.1)).Perm (entries.map (·.1)) := (List.mergeSort_perm _ _).map _
  have different : (ofList entries).entries.Pairwise fun a b => a.1 ≠ b.1 :=
    List.pairwise_map.1 (perm.nodup_iff.2 distinct)
  -- sorted without repeats is sorted strictly
  exact (sorted.and different).imp fun ⟨h, hne⟩ => lt_of_le_of_ne (of_decide_eq_true h) hne

theorem mem_of_get? (h : w.get? name = some v) : (name, v) ∈ w.entries := by
  obtain ⟨e, he, rfl⟩ := Option.map_eq_some_iff.1 h
  have hname := List.find?_some he
  rw [← eq_of_beq hname]
  exact List.mem_of_find?_eq_some he

theorem get?_of_mem (sorted : w.entries.Pairwise (·.1 < ·.1)) (h : (name, v) ∈ w.entries) :
    w.get? name = some v := by
  have distinct : (w.entries.map (·.1)).Nodup := List.pairwise_map.2 (sorted.imp fun h => ne_of_lt h)
  rw [get?, find?_of_nodup (k := (·.1)) (fun d => beq_iff_eq) distinct h]
  rfl

theorem exists_shows (sorted : w.entries.Pairwise (·.1 < ·.1)) : ∃ σ, w.Shows σ := by
  refine ⟨fun name => (w.get? name).getD 0, fun e he => ?_⟩
  show (w.get? e.1).getD 0 = e.2
  rw [get?_of_mem sorted he]
  rfl

end Witness

end TransitionGuards
