import TransitionGuards.Search
import TransitionGuards.Proofs.Distinct
import TransitionGuards.Proofs.Evaluation

/-
  The candidates meet every region.

  Whatever value a variable has, there is a candidate at which every atom over
  the variable is as true as at the value (`exists_candidate`): one goes from
  the value towards zero, step by step, and no atom changes before a candidate
  is met. So the candidate is tried no later than the value would be, and
  putting in either of the two gives one and the same formula, whichever formula
  over these atoms it is (`exists_representative`).
-/

namespace TransitionGuards

/-! ## The order of trial -/

theorem triedBefore_iff (v w : Int64) : triedBefore v w = true ↔
    v.toInt.natAbs < w.toInt.natAbs ∨ v.toInt.natAbs = w.toInt.natAbs ∧ (0 ≤ v.toInt ∨ w.toInt < 0) := by
  simp [triedBefore, Int64.le_iff_toInt_le, Int64.lt_iff_toInt_lt]

theorem triedBefore_refl (v : Int64) : triedBefore v v = true := by
  rw [triedBefore_iff]
  omega

theorem triedBefore_trans (u v w : Int64) (h₁ : triedBefore u v = true) (h₂ : triedBefore v w = true) :
    triedBefore u w = true := by
  rw [triedBefore_iff] at *
  omega

theorem triedBefore_total (v w : Int64) : (triedBefore v w || triedBefore w v) = true := by
  rw [Bool.or_eq_true, triedBefore_iff, triedBefore_iff]
  omega

theorem triedBefore_antisymm {v w : Int64} (h₁ : triedBefore v w = true) (h₂ : triedBefore w v = true) :
    v = w := by
  rw [triedBefore_iff] at h₁ h₂
  apply Int64.toInt.inj
  omega

/-! ## The candidates of a list of constants -/

theorem toInt_pred {c : Int64} (h : c ≠ Int64.minValue) : (c - 1).toInt = c.toInt - 1 := by
  have hc := mt Int64.toInt_inj.1 h
  have low := c.le_toInt
  have high := c.toInt_lt
  rw [Int64.toInt_minValue] at hc
  rw [Int64.toInt_sub, Int64.toInt_one]
  exact Int.bmod_eq_of_le (by omega) (by omega)

theorem toInt_succ {c : Int64} (h : c ≠ Int64.maxValue) : (c + 1).toInt = c.toInt + 1 := by
  have hc := mt Int64.toInt_inj.1 h
  have low := c.le_toInt
  have high := c.toInt_lt
  rw [Int64.toInt_maxValue] at hc
  rw [Int64.toInt_add, Int64.toInt_one]
  exact Int.bmod_eq_of_le (by omega) (by omega)

/-- The neighbours of a constant, in unbounded integers: the ones that 64 bits
do not hold are no values anyway. -/
theorem mem_neighbours (v c : Int64) : v ∈ neighbours c ↔
    v.toInt = c.toInt ∨ v.toInt = c.toInt - 1 ∨ v.toInt = c.toInt + 1 := by
  have below : v ∈ (if c = Int64.minValue then [] else [c - 1]) ↔ v.toInt = c.toInt - 1 := by
    split
    -- nothing lies below the least integer
    · next h =>
      have low := v.le_toInt
      rw [h, Int64.toInt_minValue]
      simp only [List.not_mem_nil, false_iff]
      omega
    · next h => rw [List.mem_singleton, ← toInt_pred h, Int64.toInt_inj]
  have above : v ∈ (if c = Int64.maxValue then [] else [c + 1]) ↔ v.toInt = c.toInt + 1 := by
    split
    · next h =>
      have high := v.toInt_lt
      rw [h, Int64.toInt_maxValue]
      simp only [List.not_mem_nil, false_iff]
      omega
    · next h => rw [List.mem_singleton, ← toInt_succ h, Int64.toInt_inj]
  rw [neighbours, List.mem_cons, List.mem_append, below, above, Int64.toInt_inj]

theorem mem_dropRepeats (v : Int64) : ∀ l : List Int64, v ∈ dropRepeats l ↔ v ∈ l
  | [] => Iff.rfl
  | [_] => Iff.rfl
  | u :: w :: rest => by
    rw [dropRepeats]
    split
    · next h => rw [mem_dropRepeats v (w :: rest), h]; simp
    · rw [List.mem_cons, mem_dropRepeats v (w :: rest), ← List.mem_cons]

theorem mem_candidateValues (v : Int64) (cs : List Int64) : v ∈ candidateValues cs ↔
    v = 0 ∨ ∃ c ∈ cs, v.toInt = c.toInt ∨ v.toInt = c.toInt - 1 ∨ v.toInt = c.toInt + 1 := by
  simp [candidateValues, mem_dropRepeats, mem_neighbours]

/-! ## Every region has a candidate -/

/-- A comparison with a constant tells two values apart only by the side of
the constant on which they lie. -/
theorem Comparator.holds_congr (c : Comparator) {v w k : Int64} (less : v.toInt < k.toInt ↔ w.toInt < k.toInt)
    (same : v.toInt = k.toInt ↔ w.toInt = k.toInt) : c.holds v k = c.holds w k := by
  rw [Bool.eq_iff_iff]
  cases c with
  | eq => simpa [holds, Int64.toInt_inj] using same
  | ne => simpa [holds, Int64.toInt_inj] using not_congr same
  | gt => simp only [holds, decide_eq_true_eq, Int64.lt_iff_toInt_lt]; omega
  | ge => simp only [holds, decide_eq_true_eq, Int64.le_iff_toInt_le]; omega
  | lt => simpa [holds, Int64.lt_iff_toInt_lt] using less
  | le => simp only [holds, decide_eq_true_eq, Int64.le_iff_toInt_le]; omega

theorem exists_nearer {v : Int64} (h : v ≠ 0) : ∃ w : Int64,
    (0 < v.toInt ∧ w.toInt = v.toInt - 1) ∨ (v.toInt < 0 ∧ w.toInt = v.toInt + 1) := by
  have h0 := mt Int64.toInt_inj.1 h
  rw [Int64.toInt_zero] at h0
  rcases Int.lt_or_lt_of_ne h0 with hv | hv
  · have : v ≠ Int64.maxValue := by rintro rfl; cases hv
    exact ⟨v + 1, .inr ⟨hv, toInt_succ this⟩⟩
  · have : v ≠ Int64.minValue := by rintro rfl; cases hv
    exact ⟨v - 1, .inl ⟨hv, toInt_pred this⟩⟩

theorem exists_candidate (cs : List Int64) (v : Int64) : ∃ c ∈ candidateValues cs, triedBefore c v = true ∧
    ∀ k ∈ cs, ∀ r : Comparator, r.holds v k = r.holds c k := by
  induction hn : v.toInt.natAbs using Nat.strongRecOn generalizing v with
  | ind n ih =>
    by_cases hv : v ∈ candidateValues cs
    · exact ⟨v, hv, triedBefore_refl v, fun _ _ _ => rfl⟩
    obtain ⟨hne, far⟩ := not_or.1 (mt (mem_candidateValues v cs).2 hv)
    obtain ⟨w, hw⟩ := exists_nearer hne
    obtain ⟨c, hc, before, same⟩ := ih w.toInt.natAbs (by omega) w rfl
    refine ⟨c, hc, triedBefore_trans c w v before ?_, fun k hk r => ?_⟩
    · rw [triedBefore_iff]
      omega
    · -- `v` is no neighbour of `k`, so one step does not take it past `k`
      have := mt (fun h => ⟨k, hk, h⟩) far
      rw [← same k hk r]
      exact r.holds_congr (by omega) (by omega)

/-! ## The candidates of a formula -/

namespace Formula

/-- Values that no atom over the variable tells apart give the same formula. -/
theorem assign_congr {x : VarId} {v w : Int64} {f : Formula}
    (h : ∀ a ∈ f.atoms, a.var = x → a.comparator.holds v a.value = a.comparator.holds w a.value) :
    f.assign x v = f.assign x w := by
  induction f with
  | const b => rfl
  | atom a =>
    by_cases hx : a.var = x
    · simp [assign, hx, h a (List.mem_singleton_self a) hx]
    · simp [assign, hx]
  | not f ih => rw [assign, assign, ih h]
  | and parts ih | or parts ih =>
    have hs : parts.map (assign x v) = parts.map (assign x w) := by
      apply List.map_congr_left
      intro f hf
      exact ih f hf fun a ha => h a (by simpa using ⟨f, hf, ha⟩)
    simp [assign, hs]

/-- For each value of the variable there is a candidate, tried no later, that
stands for it: it gives the same formula, for all formulas whose atoms are among
those the candidates come from. -/
theorem exists_representative (atoms : List Atom) (x : VarId) (v : Int64) :
    ∃ c ∈ candidatesOf atoms x, triedBefore c v = true ∧
      ∀ f : Formula, (∀ a ∈ f.atoms, a ∈ atoms) → f.assign x v = f.assign x c := by
  obtain ⟨c, hc, before, same⟩ :=
    exists_candidate ((atoms.filter fun a => decide (a.var = x)).map (·.value)) v
  refine ⟨c, hc, before, fun f sub => assign_congr fun a ha hx => same a.value ?_ a.comparator⟩
  exact List.mem_map_of_mem (List.mem_filter.2 ⟨sub a ha, decide_eq_true hx⟩)

theorem exists_candidate_assign {atoms : List Atom} {f : Formula} (sub : ∀ a ∈ f.atoms, a ∈ atoms) (x : VarId)
    (v : Int64) : ∃ c ∈ candidatesOf atoms x, triedBefore c v = true ∧ f.assign x v = f.assign x c := by
  obtain ⟨c, hc, before, same⟩ := exists_representative atoms x v
  exact ⟨c, hc, before, same f sub⟩

/-- A formula that fails with every candidate put in for the variable fails. -/
theorem fails_of_candidates {atoms : List Atom} {f : Formula} {x : VarId} {s : Values}
    (sub : ∀ a ∈ f.atoms, a ∈ atoms) (fails : ∀ v ∈ candidatesOf atoms x, (f.assign x v).holds s = false) :
    f.holds s = false := by
  -- a candidate stands for the value of the variable
  obtain ⟨c, hc, _, same⟩ := exists_candidate_assign sub x (s x)
  have := fails c hc
  rwa [← same, holds_assign, Function.update_eq_self] at this

theorem mem_candidates {f : Formula} {x : VarId} {values : List Int64} : (x, values) ∈ f.candidates ↔
    (∃ a ∈ f.atoms, a.var = x) ∧ values = candidatesOf f.atoms x := by
  simp only [candidates, List.mem_map, List.mem_mergeSort, List.mem_eraseDups, Prod.mk.injEq]
  constructor
  · intro h
    obtain ⟨y, ⟨a, ha, hy⟩, rfl, rfl⟩ := h
    exact ⟨⟨a, ha, hy⟩, rfl⟩
  · intro h
    obtain ⟨⟨a, ha, hx⟩, rfl⟩ := h
    exact ⟨x, ⟨a, ha, hx⟩, rfl, rfl⟩

theorem nodup_candidates (f : Formula) : (f.candidates.map (·.1)).Nodup := by
  have : f.candidates.map (·.1) =
      (f.atoms.map (·.var)).eraseDups.mergeSort fun x y => decide (x.index ≤ y.index) := by
    simp [candidates, Function.comp_def]
  rw [this]
  exact (List.mergeSort_perm _ _).nodup_iff.2 (nodup_eraseDups _)

end Formula

theorem searchOrder_perm (candidates : List (VarId × List Int64)) : (searchOrder candidates).Perm candidates :=
  List.mergeSort_perm _ _

namespace Formula

theorem mem_searchOrder_iff {f : Formula} {x : VarId} {values : List Int64} :
    (x, values) ∈ searchOrder f.candidates ↔ (∃ a ∈ f.atoms, a.var = x) ∧ values = candidatesOf f.atoms x :=
  (searchOrder_perm _).mem_iff.trans mem_candidates

theorem nodup_searchOrder (f : Formula) : ((searchOrder f.candidates).map (·.1)).Nodup :=
  ((searchOrder_perm _).map _).nodup_iff.2 f.nodup_candidates

theorem mem_searchOrder {f : Formula} {x : VarId} :
    x ∈ (searchOrder f.candidates).map (·.1) ↔ ∃ a ∈ f.atoms, a.var = x := by
  rw [List.mem_map]
  constructor
  · intro h
    obtain ⟨e, he, rfl⟩ := h
    exact (mem_searchOrder_iff.1 he).1
  · intro h
    exact ⟨(x, _), mem_searchOrder_iff.2 ⟨h, rfl⟩, rfl⟩

end Formula

end TransitionGuards
