import TransitionGuards.Proofs.Evaluation

/-
  Folding where some variables have no value.

  A truth value takes two things: that every variable in the formula has a value,
  and that the formula holds or fails with them, zero standing in for what is
  missing elsewhere (`eval_eq_some_iff`). So one formula keeps the truth values of
  another exactly if it speaks of no further variable and holds where the other
  does (`keeps_iff`). Folding keeps them in this way. What it drops may be what had
  no value, so a truth value can appear where there was none, except under
  negation, which drops nothing (`eval_neg`).
-/

namespace TransitionGuards

namespace Formula

variable {value : VarId → Option Int64} {f g : Formula} {x y : VarId} {v : Int64} {b : Bool}

/-! ## Truth values -/

/-- The values, and zero for the variables that have none. -/
def completed (value : VarId → Option Int64) : Values := fun x => (value x).getD 0

theorem completed_of_isSome (h : (value x).isSome) : value x = some (completed value x) := by
  obtain ⟨v, hv⟩ := Option.isSome_iff_exists.1 h
  rw [completed, hv, Option.getD_some]

theorem completed_update (value : VarId → Option Int64) (x : VarId) (v : Int64) :
    completed (Function.update value x (some v)) = Function.update (completed value) x v := by
  funext y
  by_cases hy : y = x
  · subst hy
    simp [completed]
  · simp [completed, hy]

theorem eval_eq_some_iff :
    f.eval value = some b ↔ (∀ a ∈ f.atoms, (value a.var).isSome) ∧ f.holds (completed value) = b := by
  constructor
  · intro h
    have defined : (f.eval value).isSome := by rw [h]; rfl
    refine ⟨(isSome_eval f).1 defined, holds_of_eval h ?_⟩
    intro x v hx
    rw [completed, hx, Option.getD_some]
  · rintro ⟨valued, rfl⟩
    exact eval_eq_holds fun a ha => completed_of_isSome (valued a ha)

theorem forall_mentions_iff {p : VarId → Prop} :
    (∀ x, f.mentions x = true → p x) ↔ ∀ a ∈ f.atoms, p a.var := by
  constructor
  · exact fun h a ha => h a.var ((mentions_iff a.var f).2 ⟨a, ha, rfl⟩)
  · intro h x hx
    obtain ⟨a, ha, rfl⟩ := (mentions_iff x f).1 hx
    exact h a ha

/-! ## Keeping truth values -/

/-- Whether `g` has the truth value of `f` wherever `f` has one. -/
def Keeps (g f : Formula) : Prop := ∀ value b, f.eval value = some b → g.eval value = some b

theorem keeps_iff : g.Keeps f ↔
    (∀ x, g.mentions x = true → f.mentions x = true) ∧ ∀ s, g.holds s = f.holds s := by
  constructor
  · intro keeps
    constructor
    · -- values for the variables of `f` only
      let value (x : VarId) : Option Int64 := if f.mentions x then some 0 else none
      have valued : ∀ a ∈ f.atoms, (value a.var).isSome := by
        rw [← forall_mentions_iff (p := fun x => (value x).isSome)]
        intro x hx
        simp [value, hx]
      have kept := keeps value _ (eval_eq_some_iff.2 ⟨valued, rfl⟩)
      intro x hx
      have hv : (value x).isSome :=
        forall_mentions_iff (p := fun x => (value x).isSome).2 (eval_eq_some_iff.1 kept).1 x hx
      by_contra other
      simp [value, other] at hv
    · intro s
      exact Option.some.inj ((eval_total s g).symm.trans (keeps _ _ (eval_total s f)))
  -- the variables of `g` are among those of `f`, and so have values where it has one
  · rintro ⟨mentioned, same⟩ value b h
    obtain ⟨valued, rfl⟩ := eval_eq_some_iff.1 h
    have valued := forall_mentions_iff (p := fun x => (value x).isSome).2 valued
    exact eval_eq_some_iff.2 ⟨forall_mentions_iff.1 fun x hx => valued x (mentioned x hx), same _⟩

theorem keeps_of_atoms (atoms : ∀ a ∈ g.atoms, a ∈ f.atoms) (same : ∀ s, g.holds s = f.holds s) : g.Keeps f := by
  refine keeps_iff.2 ⟨?_, same⟩
  intro x hx
  obtain ⟨a, ha, rfl⟩ := (mentions_iff x g).1 hx
  exact (mentions_iff a.var f).2 ⟨a, atoms a ha, rfl⟩

theorem conj_keeps (fs : List Formula) : (conj fs).Keeps (and fs) := by
  apply keeps_of_atoms
  · intro a ha
    rw [atoms_and, List.mem_flatMap]
    exact mem_atoms_conj ha
  · intro s
    rw [holds_conj, holds_and]

theorem disj_keeps (fs : List Formula) : (disj fs).Keeps (or fs) := by
  apply keeps_of_atoms
  · intro a ha
    rw [atoms_or, List.mem_flatMap]
    exact mem_atoms_disj ha
  · intro s
    rw [holds_disj, holds_or]

theorem eval_neg (value : VarId → Option Int64) (f : Formula) : f.neg.eval value = (not f).eval value := by
  cases f with
  | const b => rfl
  | not f =>
    rw [eval, eval, neg]
    cases f.eval value with
    | none => rfl
    | some b => rw [Option.map_some, Option.map_some, Bool.not_not]
  | atom a | and parts | or parts => rfl

/-- With `v` put in for `x`, the other variables need values only. -/
theorem eval_assign (h : f.eval (Function.update value x (some v)) = some b) :
    (f.assign x v).eval value = some b := by
  obtain ⟨valued, rfl⟩ := eval_eq_some_iff.1 h
  rw [eval_eq_some_iff, holds_assign, completed_update]
  refine ⟨fun a ha => ?_, rfl⟩
  obtain ⟨ha, other⟩ := mem_atoms_assign ha
  have := valued a ha
  rwa [Function.update_of_ne other] at this

/-! ## Truth values that folding adds -/

theorem eval_compare (value : VarId → Option Int64) (x : VarId) (c : Comparator) (v : Int64) :
    (compare x c v).eval value = (value x).map fun w => c.holds w v := rfl

/-- What is false beside a comparison without a value makes the conjunction
false, once it is folded. -/
theorem eval_conj_false (missing : value x = none) (c : Comparator) (v : Int64) :
    (and [compare x c v, .const false]).eval value = none ∧
      (conj [compare x c v, .const false]).eval value = some false := by
  constructor
  · rw [eval, evalAll, eval_compare, missing]
    rfl
  · rfl

theorem eval_disj_true (missing : value x = none) (c : Comparator) (v : Int64) :
    (or [compare x c v, .const true]).eval value = none ∧
      (disj [compare x c v, .const true]).eval value = some true := by
  constructor
  · rw [eval, evalAny, eval_compare, missing]
    rfl
  · rfl

/-- A value put in may settle what another variable without a value kept open. -/
theorem eval_assign_settled (missing : value x = none) (other : y ≠ x) (c : Comparator) (w v : Int64) :
    let f : Formula := .and [compare x c w, compare y .ne v]
    f.eval (Function.update value y (some v)) = none ∧ (f.assign y v).eval value = some false := by
  have fails : Comparator.ne.holds v v = false := by simp [Comparator.holds]
  have kept : (compare x c w).assign y v = compare x c w := if_neg other.symm
  have settled : (compare y .ne v).assign y v = .const false := by
    rw [compare, assign, if_pos rfl, fails]
  constructor
  · rw [eval, evalAll, eval_compare, Function.update_of_ne other.symm, missing]
    rfl
  · rw [assign, assignAll_eq, List.map_cons, List.map_cons, List.map_nil, kept, settled]
    exact (eval_conj_false missing c w).2

/-! ## Everything at once -/

/-- A formula, folded or not, has a truth value exactly if every variable that
occurs in it has a value, and then the classical one. Folding keeps the truth
values that the unfolded connective has, and so does putting in a value what the
formula has with that value; negation has just the same. Where a variable has no
value, folding gives some formulas a truth value that had none. -/
theorem eval_folded (value : VarId → Option Int64) :
    (∀ f : Formula, ((f.eval value).isSome ↔ ∀ x, f.mentions x = true → (value x).isSome) ∧
      ∀ s : Values, (∀ x, f.mentions x = true → value x = some (s x)) → f.eval value = some (f.holds s)) ∧
    (∀ fs b, (and fs).eval value = some b → (conj fs).eval value = some b) ∧
    (∀ fs b, (or fs).eval value = some b → (disj fs).eval value = some b) ∧
    (∀ f : Formula, f.neg.eval value = (not f).eval value) ∧
    (∀ (f : Formula) x v b, f.eval (Function.update value x (some v)) = some b → (f.assign x v).eval value = some b) ∧
    ∀ x, value x = none →
      (∃ fs, (and fs).eval value = none ∧ (conj fs).eval value = some false) ∧
      (∃ fs, (or fs).eval value = none ∧ (disj fs).eval value = some true) ∧
      ∀ y v, y ≠ x → ∃ f : Formula,
        f.eval (Function.update value y (some v)) = none ∧ (f.assign y v).eval value = some false := by
  refine ⟨fun f => ⟨?_, fun s valued => ?_⟩, fun fs => conj_keeps fs value, fun fs => disj_keeps fs value,
    eval_neg value, fun f x v b => eval_assign, fun x missing => ⟨?_, ?_, fun y v other => ?_⟩⟩
  · rw [isSome_eval, forall_mentions_iff (p := fun x => (value x).isSome)]
  · exact eval_eq_holds (forall_mentions_iff.1 valued)
  · exact ⟨_, eval_conj_false missing .eq 0⟩
  · exact ⟨_, eval_disj_true missing .eq 0⟩
  · exact ⟨_, eval_assign_settled missing other .eq 0 v⟩

/-- Where the first variable has a value and the second has none: each connective
over the first keeps its truth value, and so does a formula over both once the
second is put in. -/
theorem eval_folded_halfKnown :
    let value : VarId → Option Int64 := fun x => if x = ⟨0⟩ then some 5 else none
    let known : Formula := compare ⟨0⟩ .gt 3
    let both : Formula := .and [.not (.not known), .or [compare ⟨1⟩ .lt 0, .not known]]
    ((and [known, .and [.const true, known]]).eval value = some true ∧
      (conj [known, .and [.const true, known]]).eval value = some true) ∧
    ((or [.not known, .or []]).eval value = some false ∧ (disj [.not known, .or []]).eval value = some false) ∧
    both.eval value = none ∧ both.eval (Function.update value ⟨1⟩ (some (-1))) = some true ∧
      (both.assign ⟨1⟩ (-1)).eval value = some true := by
  intro value known both
  obtain ⟨_, conjunction, disjunction, _, assigned, _⟩ := eval_folded value
  have all : (and [known, .and [.const true, known]]).eval value = some true := rfl
  have any : (or [.not known, .or []]).eval value = some false := rfl
  have given : both.eval (Function.update value ⟨1⟩ (some (-1))) = some true := rfl
  exact ⟨⟨all, conjunction _ _ all⟩, ⟨any, disjunction _ _ any⟩, rfl, given, assigned _ _ _ _ given⟩

end Formula

end TransitionGuards
