import TransitionGuards.Proofs.LeastWitness
import TransitionGuards.Proofs.Substitution

/-
  The candidates of a variable, as a search finds them.

  The atoms over a variable cut the integers into regions, and a formula does not
  tell the values of one region apart. The candidates listed for the variable meet
  every region, no farther from zero than any value in it
  (`candidates_meet_regions`). One candidate stands for a value throughout: in the
  formula that the candidates come from, and in what is left of it after any
  choices, as these bring in no atom (`mem_atoms_after`).
-/

namespace TransitionGuards

namespace Formula
variable {f : Formula} {x : VarId}

theorem mem_atoms_after {choices : Assignment} {a : Atom} (h : a ∈ (f.after choices).atoms) : a ∈ f.atoms := by
  induction choices generalizing f with
  | nil => exact h
  | cons e choices ih => exact (mem_atoms_assign (ih h)).1

theorem lookup_candidates (occurs : f.mentions x = true) :
    f.candidates.lookup x = some (candidatesOf f.atoms x) := by
  have listed : (x, candidatesOf f.atoms x) ∈ f.candidates := mem_candidates.2 ⟨(mentions_iff x f).1 occurs, rfl⟩
  obtain ⟨before, behind, split⟩ := List.append_of_mem listed
  have distinct := f.nodup_candidates
  rw [split, List.map_append, List.map_cons, List.nodup_append] at distinct
  rw [List.lookup_eq_some_iff, split]
  refine ⟨before, behind, rfl, fun e he => ?_⟩
  have other : e.1 ≠ x := distinct.2.2 e.1 (List.mem_map_of_mem he) x (List.mem_cons_self ..)
  simpa using other.symm

theorem zero_mem_candidatesOf (atoms : List Atom) (x : VarId) : 0 ∈ candidatesOf atoms x :=
  (mem_candidateValues 0 _).2 (.inl rfl)

theorem sorted_candidatesOf (atoms : List Atom) (x : VarId) : (candidatesOf atoms x).Pairwise Nearer := by
  have sorted := (sorted_candidateValues ((atoms.filter fun a => decide (a.var = x)).map (·.value))).and
    (nodup_candidateValues _)
  refine sorted.imp fun {v w} h => ?_
  obtain ⟨before, different⟩ := h
  exact (eq_or_nearer before).resolve_left different

theorem not_nearer {v w : Int64} (h : triedBefore v w = true) : ¬Nearer w v := by
  rw [triedBefore_iff] at h
  rw [Nearer]
  omega

/-- A variable of a formula, folded or not, has a list of candidates, sorted by
distance from zero, the positive one of two at the same distance first, without
repeats, and with zero among them. For every value there is one that is not after
it and gives the same formula when it is put in for the variable, both in the
formula and in what is left of it after any choices. -/
theorem candidates_meet_regions (f : Formula) (x : VarId) (occurs : f.mentions x = true) :
    ∃ values, f.candidates.lookup x = some values ∧
      0 ∈ values ∧ values.Nodup ∧ values.Pairwise Nearer ∧
      ∀ v, ∃ c ∈ values, ¬Nearer v c ∧ f.assign x v = f.assign x c ∧
        ∀ choices, (f.after choices).assign x v = (f.after choices).assign x c := by
  refine ⟨_, lookup_candidates occurs, zero_mem_candidatesOf _ x, nodup_candidateValues _,
    sorted_candidatesOf _ x, fun v => ?_⟩
  obtain ⟨c, hc, before, same⟩ := exists_representative f.atoms x v
  exact ⟨c, hc, not_nearer before, same f fun a ha => ha, fun choices => same _ fun a => mem_atoms_after⟩

/-- A variable compared with the two extremes, each without its neighbour on one
side; a value below zero, before and after a choice for the other variable. -/
theorem candidates_meet_regions_extremes :
    let x : VarId := ⟨1⟩
    let y : VarId := ⟨0⟩
    let f : Formula :=
      .and [.not (.not (compare x .gt Int64.minValue)), .or [compare x .ge Int64.maxValue, compare y .eq 3], .or []]
    let values := [0, Int64.maxValue - 1, Int64.maxValue, Int64.minValue + 1, Int64.minValue]
    f.mentions x = true ∧ f.candidates.lookup x = some values ∧
      ∃ c ∈ values, ¬Nearer (-7) c ∧ f.assign x (-7) = f.assign x c ∧
        (f.after [(y, 3)]).assign x (-7) = (f.after [(y, 3)]).assign x c := by
  intro x y f values
  have occurs : f.mentions x = true := rfl
  have listed : f.candidates.lookup x = some values := by cbv
  obtain ⟨values', listed', _, _, _, meets⟩ := candidates_meet_regions f x occurs
  cases listed.symm.trans listed'
  obtain ⟨c, hc, before, same, left⟩ := meets (-7)
  exact ⟨occurs, listed, c, hc, before, same, left [(y, 3)]⟩

end Formula

end TransitionGuards
