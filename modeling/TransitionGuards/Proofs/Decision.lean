import Mathlib
import TransitionGuards.Proofs.Assignments
import TransitionGuards.Proofs.Registration
import TransitionGuards.Proofs.SearchRun
import TransitionGuards.Proofs.WitnessOrder

/-
  The decision procedure is exact.

  An answer "unsatisfiable" means that no values at all make the assertions
  hold together (`unsat_exact`). A witness lists the variables of the
  assertions by name, each once, and the assertions hold on it (`sat_exact`):
  a variable without a choice may have any value, the search having ended
  without it. Both are read off the search, which begins `Ready`.
-/

namespace TransitionGuards
variable {clock : Clock} {table : SymbolTable} {assertions : List Formula} {limits : Limits}

theorem finds_of_unsat (h : decideAll clock table assertions limits = .ok .unsat) :
    Finds (searchOrder (Formula.conj assertions).candidates) (Formula.conj assertions) none := by
  simp only [decideAll] at h
  split at h
  · cases h
  · next hs => exact finds_of_search hs
  · cases h

theorem search_of_sat {w : Witness} (h : decideAll clock table assertions limits = .ok (.sat w)) :
    ∃ choices decisions, search limits clock (searchOrder (Formula.conj assertions).candidates)
        (Formula.conj assertions) 0 = .ok ⟨some choices, decisions⟩ ∧
      w = witnessOf table (Formula.conj assertions).candidates choices := by
  simp only [decideAll] at h
  split at h
  · cases h
  · cases h
  · next choices decisions hs =>
    cases h
    exact ⟨choices, decisions, hs, rfl⟩

theorem finds_of_sat {w : Witness} (h : decideAll clock table assertions limits = .ok (.sat w)) :
    ∃ choices, Finds (searchOrder (Formula.conj assertions).candidates) (Formula.conj assertions) (some choices) ∧
      w = witnessOf table (Formula.conj assertions).candidates choices := by
  obtain ⟨choices, decisions, hs, hw⟩ := search_of_sat h
  exact ⟨choices, finds_of_search hs, hw⟩

theorem decideAll_unbounded (clock : Clock) (table : SymbolTable) (assertions : List Formula) :
    ∃ outcome, decideAll clock table assertions .unbounded = .ok outcome := by
  obtain ⟨⟨choices, n⟩, hs⟩ := search_unbounded clock
    (searchOrder (Formula.conj assertions).candidates) (Formula.conj assertions) 0
  simp only [decideAll, hs]
  cases choices with
  | none => exact ⟨_, rfl⟩
  | some choices => exact ⟨_, rfl⟩

theorem Formula.Normal.ready {f : Formula} (normal : f.Normal) :
    Ready f.atoms (searchOrder f.candidates) f where
  normal := normal
  listed a ha := mem_searchOrder.2 ⟨a, ha, rfl⟩
  sub _ ha := ha
  candidates _ he := (mem_searchOrder_iff.1 he).2

/-- The assertions that were found unsatisfiable hold together on no values. -/
theorem unsat_exact (normal : ∀ f ∈ assertions, f.Normal)
    (h : decideAll clock table assertions limits = .ok .unsat) (s : Values) :
    ∃ f ∈ assertions, f.holds s = false := by
  have := (finds_of_unsat h).refuted s rfl (Formula.Normal.conj normal).ready
  rw [Formula.holds_conj, List.all_eq_false] at this
  obtain ⟨f, hf, hs⟩ := this
  exact ⟨f, hf, eq_false_of_ne_true hs⟩

/-! ## Witnesses -/

/-- The values of a witness: a choice, or else the first candidate. -/
def Assignment.complete (choices : Assignment) (atoms : List Atom) : Values :=
  fun x => (choices.get? x).getD ((candidatesOf atoms x).headD 0)

theorem Finds.complete_holds {f : Formula} {choices : Assignment}
    (h : Finds (searchOrder f.candidates) f (some choices)) : f.holds (choices.complete f.atoms) = true := by
  -- no variable is chosen for twice, so looking a choice up finds that choice
  have distinct : (choices.map (·.1)).Nodup :=
    (h.sublist choices rfl).nodup f.nodup_searchOrder
  apply h.holds _ choices rfl
  intro e he
  rw [Assignment.complete, Assignment.get?_of_mem distinct he]
  rfl

theorem mem_witnessOf {f : Formula} {choices : Assignment} {name : String} {v : Int64}
    (known : ∀ a ∈ f.atoms, table.Knows a.var) :
    (name, v) ∈ (witnessOf table f.candidates choices).entries ↔
      ∃ a ∈ f.atoms, table.name? a.var = some name ∧ v = choices.complete f.atoms a.var := by
  rw [witnessOf, Witness.mem_ofList, List.mem_map]
  constructor
  · intro h
    obtain ⟨⟨x, values⟩, he, hentry⟩ := h
    obtain ⟨⟨a, ha, rfl⟩, rfl⟩ := Formula.mem_candidates.1 he
    obtain ⟨n, hn⟩ := SymbolTable.knows_iff.1 (known a ha)
    simp only [hn, Option.getD_some, Prod.mk.injEq] at hentry
    exact ⟨a, ha, by rw [hn, hentry.1], hentry.2.symm⟩
  · intro h
    obtain ⟨a, ha, hn, rfl⟩ := h
    refine ⟨(a.var, candidatesOf f.atoms a.var), Formula.mem_candidates.2 ⟨⟨a, ha, rfl⟩, rfl⟩, ?_⟩
    simp only [hn, Option.getD_some]
    rfl

theorem sorted_witnessOf {f : Formula} (choices : Assignment) (known : ∀ a ∈ f.atoms, table.Knows a.var) :
    (witnessOf table f.candidates choices).entries.Pairwise (·.1 < ·.1) := by
  apply Witness.sorted_ofList
  rw [List.map_map]
  apply List.pairwise_map.2
  -- different variables have different names
  refine (List.pairwise_map.1 f.nodup_candidates).imp_of_mem ?_
  rintro ⟨x, values⟩ ⟨y, values'⟩ hx hy hne hname
  obtain ⟨⟨a, ha, rfl⟩, _⟩ := Formula.mem_candidates.1 hx
  obtain ⟨⟨b, hb, rfl⟩, _⟩ := Formula.mem_candidates.1 hy
  obtain ⟨n, hn⟩ := SymbolTable.knows_iff.1 (known a ha)
  obtain ⟨m, hm⟩ := SymbolTable.knows_iff.1 (known b hb)
  simp only [Function.comp_apply, hn, hm, Option.getD_some] at hname
  exact hne (SymbolTable.name?_inj hn (hname ▸ hm))

/-- The values that a witness gives to variables, by their names. -/
def Witness.valueIn (w : Witness) (table : SymbolTable) (x : VarId) : Option Int64 := (table.name? x).bind w.get?

theorem valueIn_witnessOf {f : Formula} (choices : Assignment) {a : Atom}
    (known : ∀ a ∈ f.atoms, table.Knows a.var) (ha : a ∈ f.atoms) :
    (witnessOf table f.candidates choices).valueIn table a.var = some (choices.complete f.atoms a.var) := by
  obtain ⟨name, hn⟩ := SymbolTable.knows_iff.1 (known a ha)
  have entry : (name, choices.complete f.atoms a.var) ∈ (witnessOf table f.candidates choices).entries :=
    (mem_witnessOf known).2 ⟨a, ha, hn, rfl⟩
  rw [Witness.valueIn, hn, Option.bind_some, Witness.get?_of_mem (sorted_witnessOf choices known) entry]

/-- A conjunction that holds somewhere is not folded to `false` and keeps all
atoms. -/
theorem Formula.atoms_of_holds_conj {fs : List Formula} {s : Values} (h : (Formula.conj fs).holds s = true) :
    (Formula.conj fs).atoms = fs.flatMap Formula.atoms := by
  rcases Formula.atoms_conj fs with hf | ha
  · rw [hf] at h
    cases h
  · exact ha

/-- A witness lists the variables of the assertions, and they hold on it. -/
theorem sat_exact {w : Witness} (known : ∀ f ∈ assertions, ∀ a ∈ f.atoms, table.Knows a.var)
    (h : decideAll clock table assertions limits = .ok (.sat w)) :
    w.Lists (table.Names assertions) ∧ ∀ f ∈ assertions, f.eval (w.valueIn table) = some true := by
  obtain ⟨choices, finds, rfl⟩ := finds_of_sat h
  have all := finds.complete_holds
  -- a conjunction that holds keeps all atoms, so its names are those of the assertions
  have atoms := Formula.atoms_of_holds_conj all
  have known' : ∀ a ∈ (Formula.conj assertions).atoms, table.Knows a.var := by
    rw [atoms]
    intro a ha
    obtain ⟨f, hf, ha⟩ := List.mem_flatMap.1 ha
    exact known f hf a ha
  refine ⟨⟨sorted_witnessOf choices known', fun name => ?_⟩, fun f hf => ?_⟩
  · simp only [mem_witnessOf known', atoms, List.mem_flatMap]
    constructor
    · intro h
      obtain ⟨v, a, ⟨f, hf, ha⟩, hn, _⟩ := h
      exact ⟨f, hf, a, ha, hn⟩
    · intro h
      obtain ⟨f, hf, a, ha, hn⟩ := h
      exact ⟨_, a, ⟨f, hf, ha⟩, hn, rfl⟩
  · rw [Formula.holds_conj, List.all_eq_true] at all
    rw [← all f hf]
    apply Formula.eval_eq_holds
    intro a ha
    have ha' : a ∈ (Formula.conj assertions).atoms := by
      rw [atoms]
      exact List.mem_flatMap.2 ⟨f, hf, ha⟩
    exact valueIn_witnessOf choices known' ha'

/-! ## Exactness -/

/-- The procedure decides whether assertions can hold together, under every
limit and clock: "unsatisfiable" is said of assertions that no values make hold,
a witness lists exactly the variables of the assertions and makes all of them
hold, and without limits there always is an answer. -/
theorem decideAll_exact (clock : Clock) (table : SymbolTable) (assertions : List Formula) (limits : Limits)
    (built : ∀ f ∈ assertions, f.Built table.Knows) :
    (decideAll clock table assertions limits = .ok .unsat →
      ∀ s : Values, ¬∀ f ∈ assertions, f.eval (fun x => some (s x)) = some true) ∧
    (∀ w, decideAll clock table assertions limits = .ok (.sat w) →
      w.Lists (table.Names assertions) ∧ ∀ f ∈ assertions, f.eval (w.valueIn table) = some true) ∧
    ∃ outcome, decideAll clock table assertions .unbounded = .ok outcome := by
  refine ⟨fun h s all => ?_, fun w h => ?_, decideAll_unbounded clock table assertions⟩
  · obtain ⟨f, hf, hs⟩ := unsat_exact (fun f hf => (built f hf).normal) h s
    have := all f hf
    rw [Formula.eval_total, hs] at this
    cases this
  · exact sat_exact (fun f hf => (built f hf).known_var) h

/-- Two variables, the first of them held at the least integer. -/
def extremes : SymbolTable × List Formula :=
  (⟨["x", "y"], by decide⟩,
   [(Formula.compare ⟨0⟩ .gt Int64.minValue).neg,
    .disj [.conj [.compare ⟨1⟩ .ge Int64.maxValue, .const true], .compare ⟨0⟩ .eq 3]])

theorem extremes_built : ∀ f ∈ extremes.2, f.Built extremes.1.Knows := by
  have x (c : Comparator) (v : Int64) : (Formula.compare ⟨0⟩ c v).Built extremes.1.Knows :=
    .compare c v Nat.zero_lt_two
  have y (c : Comparator) (v : Int64) : (Formula.compare ⟨1⟩ c v).Built extremes.1.Knows :=
    .compare c v Nat.one_lt_two
  refine List.forall_mem_cons.2 ⟨.neg (x _ _), List.forall_mem_singleton.2 (.disj ?_)⟩
  refine List.forall_mem_cons.2 ⟨.conj ?_, List.forall_mem_singleton.2 (x _ _)⟩
  exact List.forall_mem_cons.2 ⟨y _ _, List.forall_mem_singleton.2 (.const true)⟩

theorem decideAll_exact_extremes :
    let w : Witness := ⟨[("x", Int64.minValue), ("y", Int64.maxValue)]⟩
    (∀ f ∈ extremes.2, f.Built extremes.1.Knows) ∧
    decideAll .nominal extremes.1 extremes.2 .unbounded = .ok (.sat w) ∧
    w.Lists (extremes.1.Names extremes.2) ∧ ∀ f ∈ extremes.2, f.eval (w.valueIn extremes.1) = some true := by
  have found : decideAll .nominal extremes.1 extremes.2 .unbounded =
      .ok (.sat ⟨[("x", Int64.minValue), ("y", Int64.maxValue)]⟩) := by cbv
  exact ⟨extremes_built, found, (decideAll_exact _ _ _ _ extremes_built).2.1 _ found⟩

end TransitionGuards
