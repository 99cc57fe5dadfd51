import TransitionGuards.Proofs.Decision

/-
  Witnesses are least.

  Values are compared by their distance from zero, the positive one of two at
  the same distance first (`Nearer`), and a query takes its variables in a fixed
  order (`QueryOrder`). Read in that order, the witness of a query comes
  lexicographically before all other values that satisfy the assertions, be they
  candidates or not (`decideAll_least`). The step is `Finds.least`: the
  candidates refuted before a choice stand for all the values nearer to zero.
-/

namespace TransitionGuards

/-! ## The order of values -/

/-- Whether `v` is nearer to zero than `w`. Of two values at the same distance
the positive one counts as nearer. -/
def Nearer (v w : Int64) : Prop :=
  v.toInt.natAbs < w.toInt.natAbs ∨ v.toInt.natAbs = w.toInt.natAbs ∧ 0 ≤ v.toInt ∧ w.toInt < 0

/-- Whether the values are `ws`, or nearer to zero at the first place where they
differ. -/
def AtMost (vs ws : List Int64) : Prop := vs = ws ∨ List.Lex Nearer vs ws

theorem eq_or_nearer {v w : Int64} (h : triedBefore v w = true) : v = w ∨ Nearer v w := by
  rw [triedBefore_iff] at h
  rw [Nearer, ← Int64.toInt_inj]
  omega

theorem triedBefore_zero (v : Int64) : triedBefore 0 v = true := by
  rw [triedBefore_iff, Int64.toInt_zero]
  omega

namespace AtMost
variable {v w : Int64} {vs ws : List Int64}

theorem cons (first : triedBefore v w = true) (rest : v = w → AtMost vs ws) : AtMost (v :: vs) (w :: ws) := by
  rcases eq_or_nearer first with rfl | nearer
  · rcases rest rfl with rfl | lex
    · exact .inl rfl
    · exact .inr (.cons lex)
  · exact .inr (.rel nearer)

theorem zeros {α : Type} (g : α → Int64) : ∀ l : List α, AtMost (l.map fun _ => 0) (l.map g)
  | [] => .inl rfl
  | a :: l => cons (triedBefore_zero (g a)) fun _ => zeros g l

theorem singleton (h : AtMost [v] [w]) : v = w ∨ Nearer v w := by
  rcases h with h | h
  · exact .inl (List.singleton_inj.1 h)
  · cases h with
    | rel nearer => exact .inr nearer
    | cons none => cases none

end AtMost

/-! ## Candidates in order -/

theorem dropRepeats_sublist : ∀ l : List Int64, (dropRepeats l).Sublist l
  | [] => .slnil
  | [v] => .refl [v]
  | v :: w :: rest => by
    rw [dropRepeats]
    split
    · exact (dropRepeats_sublist (w :: rest)).cons v
    · exact (dropRepeats_sublist (w :: rest)).cons_cons v

theorem sorted_candidateValues (cs : List Int64) :
    (candidateValues cs).Pairwise fun v w => triedBefore v w = true :=
  (List.pairwise_mergeSort triedBefore_trans triedBefore_total _).sublist (dropRepeats_sublist _)

theorem nodup_dropRepeats : ∀ {l : List Int64}, (l.Pairwise fun v w => triedBefore v w = true) → (dropRepeats l).Nodup
  | [], _ => List.nodup_nil
  | [v], _ => List.nodup_singleton v
  | v :: w :: rest, sorted => by
    obtain ⟨first, sorted⟩ := List.pairwise_cons.1 sorted
    rw [dropRepeats]
    split
    · exact nodup_dropRepeats sorted
    · next other =>
      refine List.nodup_cons.2 ⟨fun again => ?_, nodup_dropRepeats sorted⟩
      rcases List.mem_cons.1 ((mem_dropRepeats v _).1 again) with same | later
      · exact other same
      · exact other (triedBefore_antisymm (first w (List.mem_cons_self ..)) ((List.pairwise_cons.1 sorted).1 v later))

theorem nodup_candidateValues (cs : List Int64) : (candidateValues cs).Nodup :=
  nodup_dropRepeats (List.pairwise_mergeSort triedBefore_trans triedBefore_total _)

/-- A candidate that has not been tried before `v` does not come before it. -/
theorem triedBefore_of_notMem {tried later : List Int64} {v c : Int64}
    (sorted : (tried ++ v :: later).Pairwise fun u w => triedBefore u w = true) (hc : c ∈ tried ++ v :: later)
    (notTried : c ∉ tried) : triedBefore v c = true := by
  rcases List.mem_cons.1 ((List.mem_append.1 hc).resolve_left notTried) with rfl | hlater
  · exact triedBefore_refl c
  · exact (List.pairwise_cons.1 (List.pairwise_append.1 sorted).2.1).1 c hlater

theorem head_candidatesOf (atoms : List Atom) (x : VarId) : (candidatesOf atoms x).headD 0 = 0 := by
  have sorted := sorted_candidateValues ((atoms.filter fun a => decide (a.var = x)).map (·.value))
  have zero := (mem_candidateValues 0 ((atoms.filter fun a => decide (a.var = x)).map (·.value))).2 (.inl rfl)
  rw [candidatesOf]
  generalize candidateValues ((atoms.filter fun a => decide (a.var = x)).map (·.value)) = l at sorted zero
  cases sorted with
  | nil => rfl
  | @cons v rest first _ =>
    rcases List.mem_cons.1 zero with h | h
    · exact h.symm
    · exact triedBefore_antisymm (first 0 h) (triedBefore_zero v)

/-! ## The order of variables -/

/-- Whether a query whose formulas have these atoms takes `x` before `y`: the
variable with fewer candidates first, of two with as many the one registered
first. -/
def TakenBefore (atoms : List Atom) (x y : VarId) : Prop :=
  (candidatesOf atoms x).length < (candidatesOf atoms y).length ∨
    (candidatesOf atoms x).length = (candidatesOf atoms y).length ∧ x.index < y.index

/-- Whether these are the variables of the assertions, in the order in which a
query takes them. -/
structure QueryOrder (assertions : List Formula) (vars : List VarId) : Prop where
  sorted : vars.Pairwise (TakenBefore (assertions.flatMap Formula.atoms))
  mem_iff : ∀ x, x ∈ vars ↔ ∃ f ∈ assertions, ∃ a ∈ f.atoms, a.var = x

theorem Formula.sorted_candidates (f : Formula) : f.candidates.Pairwise fun a b => a.1.index < b.1.index := by
  have trans : ∀ x y z : VarId, decide (x.index ≤ y.index) → decide (y.index ≤ z.index) →
      decide (x.index ≤ z.index) := by
    intro x y z hxy hyz
    exact decide_eq_true (Nat.le_trans (of_decide_eq_true hxy) (of_decide_eq_true hyz))
  have total : ∀ x y : VarId, decide (x.index ≤ y.index) || decide (y.index ≤ x.index) := by
    intro x y
    simpa using Nat.le_total x.index y.index
  have sorted := List.pairwise_mergeSort trans total (f.atoms.map (·.var)).eraseDups
  have distinct := (List.mergeSort_perm (f.atoms.map (·.var)).eraseDups
    fun x y => decide (x.index ≤ y.index)).nodup_iff.2 (nodup_eraseDups _)
  apply List.pairwise_map.2
  refine (sorted.and distinct).imp fun {x y} h => ?_
  obtain ⟨hle, hne⟩ := h
  refine Nat.lt_of_le_of_ne (of_decide_eq_true hle) fun same => hne ?_
  cases x
  exact congrArg VarId.mk same

theorem Formula.sorted_searchOrder (f : Formula) :
    ((searchOrder f.candidates).map (·.1)).Pairwise (TakenBefore f.atoms) := by
  let fewer (a b : VarId × List Int64) : Bool := decide (a.2.length ≤ b.2.length)
  have trans : ∀ a b c, fewer a b = true → fewer b c = true → fewer a c = true := by
    simpa [fewer] using fun _ _ _ => Nat.le_trans
  have total : ∀ a b, (fewer a b || fewer b a) = true := by
    simp [fewer, Nat.le_total]
  have stable := pairwise_mergeSort_stable trans total f.nodup_candidates.of_map f.sorted_candidates
  apply List.pairwise_map.2
  refine stable.imp_of_mem fun {a b} ha hb h => ?_
  have candidates : ∀ e ∈ f.candidates, e.2 = candidatesOf f.atoms e.1 := fun e he => (mem_candidates.1 he).2
  rw [TakenBefore, ← candidates a (List.mem_mergeSort.1 ha), ← candidates b (List.mem_mergeSort.1 hb)]
  simp only [fewer, decide_eq_true_eq] at h
  omega

/-! ## The search -/

/-- The value chosen for the variable, and zero without a choice. -/
def Assignment.value (choices : Assignment) (x : VarId) : Int64 := (choices.get? x).getD 0

theorem Assignment.value_cons_self (x : VarId) (v : Int64) (choices : Assignment) :
    Assignment.value ((x, v) :: choices) x = v := by
  simp [value, get?]

theorem Assignment.value_cons_of_ne {x y : VarId} (h : x ≠ y) (v : Int64) (choices : Assignment) :
    Assignment.value ((x, v) :: choices) y = Assignment.value choices y := by
  simp [value, get?, h]

theorem Assignment.map_value_cons {x : VarId} {rest : List (VarId × List Int64)} (new : x ∉ rest.map (·.1)) (v : Int64)
    (choices : Assignment) :
    rest.map (fun e => Assignment.value ((x, v) :: choices) e.1) = rest.map fun e => choices.value e.1 := by
  apply List.map_congr_left
  intro e he
  apply value_cons_of_ne
  rintro rfl
  exact new (List.mem_map_of_mem he)

theorem Assignment.value_of_notMem {choices : Assignment} {x : VarId} (h : x ∉ choices.map (·.1)) :
    choices.value x = 0 := by
  rw [value, get?_of_notMem h]
  rfl

theorem Assignment.complete_eq_value (choices : Assignment) (atoms : List Atom) :
    choices.complete atoms = choices.value := by
  funext x
  rw [complete, head_candidatesOf, value]

/-- What is found comes before all other values on which the formula holds. -/
theorem Finds.least {order : List (VarId × List Int64)} {f : Formula} {found : Option Assignment}
    {atoms : List Atom} (h : Finds order f found) (n : Values) :
    ∀ choices, found = some choices → Ready atoms order f → (order.map (·.1)).Nodup → f.holds n = true →
      AtMost (order.map fun e => choices.value e.1) (order.map fun e => n e.1) := by
  induction h with
  | yes order =>
    intro _ hc _ _ _
    cases hc
    exact AtMost.zeros _ order
  | no order => nofun
  | exhausted _ => nofun
  | @skip x values rest f found unused next ih =>
    intro choices hc ready distinct holds
    obtain ⟨new, distinct⟩ := List.nodup_cons.1 distinct
    -- a variable that is passed over counts as zero, which nothing comes before
    have zero : choices.value x = 0 :=
      Assignment.value_of_notMem fun hx => new ((next.sublist choices hc).subset hx)
    refine AtMost.cons ?_ fun _ => ih choices hc (ready.skip unused) distinct holds
    show triedBefore (choices.value x) (n x) = true
    rw [zero]
    exact triedBefore_zero (n x)
  | @choose x values rest f tried v later choices used split refuted found _ ih =>
    intro _ hc ready distinct holds
    cases hc
    obtain ⟨new, distinct⟩ := List.nodup_cons.1 distinct
    rw [List.map_cons, List.map_cons, Assignment.map_value_cons new, Assignment.value_cons_self]
    -- a candidate stands for the value of `x`; it is none of those refuted before `v`
    obtain ⟨c, hcand, before, same⟩ := Formula.exists_candidate_assign ready.sub x (n x)
    have holds' : (f.assign x (n x)).holds n = true := by
      rwa [Formula.holds_assign, Function.update_eq_self]
    have hvalues : values = candidatesOf atoms x := ready.candidates (x, values) (List.mem_cons_self ..)
    have sorted : values.Pairwise fun u w => triedBefore u w = true := hvalues ▸ sorted_candidateValues _
    have notTried : c ∉ tried := by
      intro hmem
      have := (refuted c hmem).refuted n rfl (ready.assign c)
      rw [← same, holds'] at this
      cases this
    have first : triedBefore v c = true := by
      rw [← hvalues, split] at hcand
      rw [split] at sorted
      exact triedBefore_of_notMem sorted hcand notTried
    refine AtMost.cons (triedBefore_trans v c (n x) first before) fun chosen => ?_
    exact ih choices rfl (ready.assign v) distinct (chosen ▸ holds')
  | refute _ _ _ => nofun

/-! ## Witnesses -/

/-- Whether the witness, read as values `m` of the variables in the order of the
query, satisfies the assertions and comes before all other values that do. -/
structure Witness.Least (w : Witness) (table : SymbolTable) (assertions : List Formula) (vars : List VarId)
    (m : Values) : Prop where
  order : QueryOrder assertions vars
  shown : ∀ x ∈ vars, w.valueIn table x = some (m x)
  satisfies : ∀ f ∈ assertions, f.eval (fun x => some (m x)) = some true
  least : ∀ n : Values, (∀ f ∈ assertions, f.eval (fun x => some (n x)) = some true) →
    AtMost (vars.map m) (vars.map n)

variable {clock : Clock} {table : SymbolTable} {assertions : List Formula} {limits : Limits}

theorem forall_eval_iff (n : Values) : (∀ f ∈ assertions, f.eval (fun x => some (n x)) = some true) ↔
    (Formula.conj assertions).holds n = true := by
  simp only [Formula.holds_conj, List.all_eq_true, Formula.eval_total, Option.some.injEq]

/-- The order of the search is that of the query: the conjunction of assertions
that can be satisfied has all their atoms. -/
theorem queryOrder_searchOrder (atoms : (Formula.conj assertions).atoms = assertions.flatMap Formula.atoms) :
    QueryOrder assertions ((searchOrder (Formula.conj assertions).candidates).map (·.1)) where
  sorted := atoms ▸ (Formula.conj assertions).sorted_searchOrder
  mem_iff x := by
    rw [Formula.mem_searchOrder, atoms]
    simp only [List.mem_flatMap]
    constructor
    · intro h
      obtain ⟨a, ⟨f, hf, ha⟩, hx⟩ := h
      exact ⟨f, hf, a, ha, hx⟩
    · intro h
      obtain ⟨f, hf, a, ha, hx⟩ := h
      exact ⟨a, ⟨f, hf, ha⟩, hx⟩

theorem least_of_finds {choices : Assignment} (built : ∀ f ∈ assertions, f.Built table.Knows)
    (finds : Finds (searchOrder (Formula.conj assertions).candidates) (Formula.conj assertions) (some choices)) :
    (witnessOf table (Formula.conj assertions).candidates choices).Least table assertions
      ((searchOrder (Formula.conj assertions).candidates).map (·.1)) choices.value := by
  have all := finds.complete_holds
  have atoms := Formula.atoms_of_holds_conj all
  rw [Assignment.complete_eq_value] at all
  refine ⟨queryOrder_searchOrder atoms, fun x hx => ?_, (forall_eval_iff _).2 all, fun n hn => ?_⟩
  · obtain ⟨a, ha, rfl⟩ := Formula.mem_searchOrder.1 hx
    rw [valueIn_witnessOf choices (Formula.Built.conj built).known_var ha, Assignment.complete_eq_value]
  · have normal := Formula.Normal.conj fun f hf => (built f hf).normal
    rw [List.map_map, List.map_map]
    exact finds.least n choices rfl normal.ready (Formula.nodup_searchOrder _) ((forall_eval_iff n).1 hn)

/-- A witness is least, under every limit and clock: read in the order in which
the query takes its variables, it comes lexicographically before all other values
that satisfy the assertions. The value of a single variable is thus the nearest to
zero that there is, and a variable for which the search has made no choice has
the value zero. -/
theorem decideAll_least (clock : Clock) (table : SymbolTable) (assertions : List Formula) (limits : Limits)
    (built : ∀ f ∈ assertions, f.Built table.Knows) (w : Witness)
    (found : decideAll clock table assertions limits = .ok (.sat w)) :
    ∃ vars m, w.Least table assertions vars m ∧
      (∀ x, vars = [x] → ∀ n : Values, (∀ f ∈ assertions, f.eval (fun x => some (n x)) = some true) →
        m x = n x ∨ Nearer (m x) (n x)) ∧
      ∃ choices decisions, search limits clock (searchOrder (Formula.conj assertions).candidates)
          (Formula.conj assertions) 0 = .ok ⟨some choices, decisions⟩ ∧
        ∀ x ∈ vars, choices.get? x = none → m x = 0 := by
  obtain ⟨choices, decisions, hs, rfl⟩ := search_of_sat found
  have least := least_of_finds built (finds_of_search hs)
  refine ⟨_, _, least, fun x single n hn => ?_, choices, decisions, hs, fun x _ none => ?_⟩
  · have := least.least n hn
    rw [single] at this
    exact this.singleton
  · rw [Assignment.value, none]
    rfl

/-- Two variables, where the smaller value for the first takes a large one for
the second. -/
def forced : SymbolTable × List Formula :=
  (⟨["a", "b"], by decide⟩,
   [.disj [.conj [.compare ⟨0⟩ .eq 0, .compare ⟨1⟩ .gt 100], .compare ⟨0⟩ .ge 1]])

theorem forced_built : ∀ f ∈ forced.2, f.Built forced.1.Knows := by
  have x (c : Comparator) (v : Int64) : (Formula.compare ⟨0⟩ c v).Built forced.1.Knows :=
    .compare c v Nat.zero_lt_two
  have y (c : Comparator) (v : Int64) : (Formula.compare ⟨1⟩ c v).Built forced.1.Knows :=
    .compare c v Nat.one_lt_two
  refine List.forall_mem_singleton.2 (.disj ?_)
  refine List.forall_mem_cons.2 ⟨.conj ?_, List.forall_mem_singleton.2 (x _ _)⟩
  exact List.forall_mem_cons.2 ⟨x _ _, List.forall_mem_singleton.2 (y _ _)⟩

theorem decideAll_least_forced :
    let w : Witness := ⟨[("a", 0), ("b", 101)]⟩
    (∀ f ∈ forced.2, f.Built forced.1.Knows) ∧
    decideAll .nominal forced.1 forced.2 .unbounded = .ok (.sat w) ∧
    ∃ vars m, w.Least forced.1 forced.2 vars m := by
  have found : decideAll .nominal forced.1 forced.2 .unbounded = .ok (.sat ⟨[("a", 0), ("b", 101)]⟩) := by cbv
  obtain ⟨vars, m, least, _⟩ := decideAll_least _ _ _ _ forced_built _ found
  exact ⟨forced_built, found, vars, m, least⟩

end TransitionGuards
