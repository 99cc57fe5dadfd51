import TransitionGuards.Proofs.LeastWitness
import TransitionGuards.Proofs.LimitedRuns

/-
  A budget that suffices is known in advance.

  Each value tried for a variable is one decision and leads to one search, at
  most, over the variables behind it. So a search over variables with
  `k₁, …, kₙ` candidates makes no more than `k₁ + k₁k₂ + … + k₁⋯kₙ` decisions
  (`decisions_search_le`), and a budget of that size is not exhausted. How many
  candidates a variable has is bounded by the number of constants that it is
  compared with (`length_candidates_le`).
-/

namespace TransitionGuards

/-! ## Adding up the levels of a search -/

/-- The first number, the product of the first two, of the first three and so
on, all added up. -/
def decisionBound (counts : List Nat) : Nat :=
  ((List.range counts.length).map fun i => (counts.take (i + 1)).prod).sum

theorem decisionBound_cons (k : Nat) (counts : List Nat) :
    decisionBound (k :: counts) = k * (decisionBound counts + 1) := by
  have level : ∀ i, ((k :: counts).take (i + 1)).prod = k * (counts.take i).prod := by
    intro i
    rw [List.take_succ_cons, List.prod_cons]
  simp only [decisionBound, List.length_cons, level, List.sum_map_mul_left]
  rw [List.range_succ_eq_map, List.map_cons, List.sum_cons, List.map_map, List.take_zero, List.prod_nil, Nat.add_comm]
  rfl

section
variable {limits : Limits} {clock : Clock} {x : VarId} {f : Formula} {order : List (VarId × List Int64)}

theorem decisions_tryValues_le {explore : Formula → Nat → Except SolverError Finding} {bound : Nat}
    (explored : ∀ g made r, explore g made = .ok r → r.decisions ≤ made + bound) :
    ∀ (values : List Int64) {made : Nat} {r : Finding}, tryValues limits clock x f explore values made = .ok r →
      r.decisions ≤ made + values.length * (bound + 1)
  | [], made, r, h => by
    cases h
    exact Nat.le_add_right ..
  | v :: values, made, r, h => by
    rw [List.length_cons, Nat.succ_mul]
    -- one value with its branch costs at most `bound + 1`, which leaves the rest to the others
    have others {m : Nat} (first : m ≤ made + (bound + 1))
        (h : tryValues limits clock x f explore values m = .ok r) :
        r.decisions ≤ made + (values.length * (bound + 1) + (bound + 1)) := by
      have := decisions_tryValues_le explored values h
      omega
    rw [tryValues] at h
    obtain ⟨_, tick, h⟩ := exists_of_bind_ok h
    obtain rfl := tick_eq_ok tick
    split at h
    · exact others (by omega) h
    · obtain ⟨found, he, h⟩ := exists_of_bind_ok h
      have cost := explored _ _ _ he
      split at h
      · cases h
        show found.decisions ≤ _
        omega
      · exact others (by omega) h

/-- A search decides at most as often as there are ways to choose values for the
first of its variables, for the first two and so on. -/
theorem decisions_search_le {made : Nat} {r : Finding} (nonempty : ∀ e ∈ order, e.2 ≠ [])
    (h : search limits clock order f made = .ok r) :
    r.decisions ≤ made + decisionBound (order.map (·.2.length)) := by
  induction order generalizing f made r with
  | nil =>
    by_cases hf : ∃ b, f = .const b
    · obtain ⟨b, rfl⟩ := hf
      cases h
      exact Nat.le_add_right ..
    · rw [search_nil fun b hb => hf ⟨b, hb⟩] at h
      cases h
      exact Nat.le_add_right ..
  | cons e rest ih =>
    obtain ⟨first, nonempty⟩ := List.forall_mem_cons.1 nonempty
    rw [List.map_cons, decisionBound_cons]
    by_cases hf : ∃ b, f = .const b
    · obtain ⟨b, rfl⟩ := hf
      cases h
      exact Nat.le_add_right ..
    · rw [search_cons fun b hb => hf ⟨b, hb⟩] at h
      split at h
      · exact decisions_tryValues_le (fun g made r => ih nonempty) e.2 h
      · -- a variable that is passed over costs nothing, but it has a candidate to pay for the others
        have paid : 1 * (decisionBound (rest.map (·.2.length)) + 1) ≤
            e.2.length * (decisionBound (rest.map (·.2.length)) + 1) :=
          Nat.mul_le_mul_right _ (List.length_pos_of_ne_nil first)
        have cost := ih nonempty h
        omega

end

/-! ## Candidates and constants -/

theorem length_neighbours_le (c : Int64) : (neighbours c).length ≤ 3 := by
  have below : (if c = Int64.minValue then [] else [c - 1]).length ≤ 1 := by split <;> simp
  have above : (if c = Int64.maxValue then [] else [c + 1]).length ≤ 1 := by split <;> simp
  rw [neighbours, List.length_cons, List.length_append]
  omega

theorem length_candidateValues_le (cs : List Int64) : (candidateValues cs).length ≤ 3 * cs.eraseDups.length + 1 := by
  have sub : candidateValues cs ⊆ 0 :: cs.eraseDups.flatMap neighbours := by
    intro v hv
    rw [List.mem_cons, List.mem_flatMap]
    refine ((mem_candidateValues v cs).1 hv).imp_right fun ⟨c, hc, near⟩ => ?_
    exact ⟨c, List.mem_eraseDups.2 hc, (mem_neighbours v c).2 near⟩
  have three : ((cs.eraseDups.map fun c => (neighbours c).length)).sum ≤
      (cs.eraseDups.map fun c => (neighbours c).length).length • 3 :=
    List.sum_le_card_nsmul _ _ (List.forall_mem_map.2 fun c _ => length_neighbours_le c)
  rw [List.length_map, smul_eq_mul] at three
  calc (candidateValues cs).length
      ≤ (0 :: cs.eraseDups.flatMap neighbours).length := (List.subperm_of_subset (nodup_candidateValues cs) sub).length_le
    _ = (cs.eraseDups.map fun c => (neighbours c).length).sum + 1 := by rw [List.length_cons, List.length_flatMap]
    _ ≤ 3 * cs.eraseDups.length + 1 := by omega

/-- The constants that the formula compares the variable with, each once. -/
def Formula.constants (f : Formula) (x : VarId) : List Int64 :=
  ((f.atoms.filter fun a => decide (a.var = x)).map (·.value)).eraseDups

/-- The numbers of candidates of the variables that a query searches, in the order
of the search. -/
def candidateCounts (assertions : List Formula) : List Nat :=
  (searchOrder (Formula.conj assertions).candidates).map (·.2.length)

section
variable {assertions : List Formula} {n : Nat}

theorem sorted_candidateCounts (assertions : List Formula) : (candidateCounts assertions).Pairwise (· ≤ ·) := by
  have sorted : (searchOrder (Formula.conj assertions).candidates).Pairwise
      fun a b => decide (a.2.length ≤ b.2.length) = true :=
    List.pairwise_mergeSort (fun a b c => by simpa using Nat.le_trans) (fun a b => by simpa using Nat.le_total _ _) _
  exact List.pairwise_map.2 (sorted.imp of_decide_eq_true)

theorem length_candidates_le {f : Formula} {x : VarId} {values : List Int64} (h : (x, values) ∈ searchOrder f.candidates) :
    values.length ≤ 3 * (f.constants x).length + 1 := by
  rw [(Formula.mem_searchOrder_iff.1 h).2]
  exact length_candidateValues_le _

theorem takesDecisions_le (h : TakesDecisions assertions n) : n ≤ decisionBound (candidateCounts assertions) := by
  obtain ⟨choices, found⟩ := h .nominal
  have nonempty : ∀ e ∈ searchOrder (Formula.conj assertions).candidates, e.2 ≠ [] := by
    rintro ⟨x, values⟩ he
    rw [(Formula.mem_searchOrder_iff.1 he).2]
    exact List.ne_nil_of_mem ((mem_candidateValues 0 _).2 (.inl rfl))
  have bounded := decisions_search_le nonempty found
  rwa [Nat.zero_add] at bounded

end

/-- The search of a query without limits makes no more decisions than the products
of the numbers of candidates of its first variables add up to, and a budget of
that many is not exhausted. The numbers grow in the order of the search, and each
of them is at most three times that of the constants of the variable, and one. -/
theorem decideAll_within_bound (table : SymbolTable) (assertions : List Formula) :
    (candidateCounts assertions).Pairwise (· ≤ ·) ∧
    (∀ x values, (x, values) ∈ searchOrder (Formula.conj assertions).candidates →
      values.length ≤ 3 * ((Formula.conj assertions).constants x).length + 1) ∧
    (∃ n ≤ decisionBound (candidateCounts assertions), TakesDecisions assertions n) ∧
    ∀ budget, decisionBound (candidateCounts assertions) ≤ budget →
      ∃ answer, ∀ clock, decideAll clock table assertions ⟨none, some budget⟩ = .ok answer ∧
        decideAll clock table assertions .unbounded = .ok answer := by
  obtain ⟨n, answer, takes, eq⟩ := decideAll_makes table assertions
  have bounded := takesDecisions_le takes
  refine ⟨sorted_candidateCounts assertions, fun x values => length_candidates_le, ⟨n, bounded, takes⟩, ?_⟩
  refine fun budget enough => ⟨answer, fun clock => ?_⟩
  rw [eq, eq, Limits.grant, Limits.grant, refusal_unbounded, refusal_budget clock n (Nat.zero_le budget), if_neg (by omega)]
  exact ⟨rfl, rfl⟩

/-- A variable that has no value, behind one whose value does not matter. -/
def fruitless : SymbolTable × List Formula :=
  (⟨["u", "v"], by decide⟩,
    [.compare ⟨1⟩ .gt 3, .compare ⟨1⟩ .lt 3, .disj [.compare ⟨0⟩ .eq 0, .compare ⟨0⟩ .ne 0]])

/-- Three values of the one and four of the other are all tried: the bound of
fifteen decisions is met, and one less is not enough. The variable with one
constant has as many candidates as that allows. -/
theorem decideAll_within_bound_attained :
    [0, 2, 3, 4].length ≤ 3 * ((Formula.conj fruitless.2).constants ⟨1⟩).length + 1 ∧
    decisionBound (candidateCounts fruitless.2) = 15 ∧
    decideAll .nominal fruitless.1 fruitless.2 ⟨none, some 15⟩ = .ok .unsat ∧
    decideAll .nominal fruitless.1 fruitless.2 ⟨none, some 14⟩ = .error (.budgetExhausted 14) := by
  have bound : decisionBound (candidateCounts fruitless.2) = 15 := by cbv
  have order : searchOrder (Formula.conj fruitless.2).candidates = [(⟨0⟩, [0, 1, -1]), (⟨1⟩, [0, 2, 3, 4])] := by cbv
  obtain ⟨_, few, _, within⟩ := decideAll_within_bound fruitless.1 fruitless.2
  obtain ⟨answer, answered⟩ := within 15 (Nat.le_of_eq bound)
  have unsat : decideAll .nominal fruitless.1 fruitless.2 .unbounded = .ok .unsat := by cbv
  rw [(answered .nominal).2] at unsat
  cases unsat
  exact ⟨few ⟨1⟩ [0, 2, 3, 4] (by simp [order]), bound, (answered .nominal).1, by cbv⟩

end TransitionGuards
