import TransitionGuards.Analyzer
import TransitionGuards.Proofs.Compilation

/-
  The constraints of declared variables mean their bounds.

  A constraint holds where the value of the declared name is within the bounds
  and speaks of that name only, and only if there is a bound. Constraints are
  made one after another and keep their meaning while names are registered
  (`domainConstraints_made`); two declarations of one name constrain the same
  variable.
-/

namespace TransitionGuards

namespace Variable

/-- Whether the value is within the bounds; none is where the declaration leaves
no value. -/
def admits (v : Variable) (value : Int64) : Bool :=
  match v.bounds with
  | .error _ => false
  | .ok (min, max) => min.all (fun low => decide (low ≤ value)) && max.all (fun high => decide (value ≤ high))

/-- Whether the variable has a bound on some side. -/
def isBounded (v : Variable) : Bool :=
  match v.bounds with
  | .error _ => false
  | .ok (min, max) => min.isSome || max.isSome

end Variable

/-- Whether the formula constrains the variable of the declared name to its
bounds, without a word on other variables. -/
structure Formula.Constrains (table : SymbolTable) (f : Formula) (v : Variable) : Prop where
  means : f.Means table fun σ => v.admits (σ v.name)
  names : ∀ name, table.Names [f] name ↔ v.name = name ∧ v.isBounded = true

theorem names_of_constrain {table : SymbolTable} {fs : List Formula} {declared : List Variable} {name : String}
    (h : List.Forall₂ (fun f v => f.Constrains table v) fs declared) :
    table.Names fs name ↔ ∃ v ∈ declared, v.name = name ∧ v.isBounded = true := by
  induction h with
  | nil => simp [SymbolTable.Names]
  | @cons f v fs _ constrains _ ih =>
    have split : table.Names ([f] ++ fs) name ↔ table.Names [f] name ∨ table.Names fs name :=
      SymbolTable.names_append
    rw [List.singleton_append] at split
    rw [split, constrains.names, ih, List.exists_mem_cons_iff]

namespace Variable
variable {v : Variable} {x : VarId} {f : Formula} {table : SymbolTable}

/-- The bounds of a variable as comparisons. -/
def comparisons (min max : Option Int64) : List (Comparator × Int64) :=
  (min.map fun low => (.ge, low)).toList ++ (max.map fun high => (.le, high)).toList

theorem exists_of_constraint (h : v.constraint x = .ok f) :
    ∃ min max, v.bounds = .ok (min, max) ∧
      f = Formula.conj ((comparisons min max).map fun p => Formula.compare x p.1 p.2) := by
  rw [constraint] at h
  cases bounds : v.bounds with
  | error e => rw [bounds] at h; cases h
  | ok range =>
    obtain ⟨min, max⟩ := range
    rw [bounds] at h
    cases h
    refine ⟨min, max, rfl, congrArg Formula.conj ?_⟩
    cases min <;> cases max <;> rfl

theorem constraint_constrains (hx : table.name? x = some v.name) (h : v.constraint x = .ok f) :
    f.Constrains table v := by
  obtain ⟨min, max, bounds, rfl⟩ := exists_of_constraint h
  constructor
  · -- one comparison for each bound, all of them about the declared name
    have each : List.Forall₂ (fun f (p : Comparator × Int64) => f.Means table fun σ => p.1.holds (σ v.name) p.2)
        ((comparisons min max).map fun p => Formula.compare x p.1 p.2) (comparisons min max) := by
      rw [List.forall₂_map_left_iff, List.forall₂_same]
      exact fun p _ => Formula.Means.compare hx p.1 p.2
    have within : (fun σ : Valuation => v.admits (σ v.name)) =
        fun σ => (comparisons min max).all fun p => p.1.holds (σ v.name) p.2 := by
      funext σ
      rw [admits, bounds]
      cases min <;> cases max <;> simp [comparisons, Comparator.holds]
    rw [within]
    exact Formula.Means.conj each
  · intro name
    rw [isBounded, bounds]
    cases min <;> cases max <;>
      simp [comparisons, Formula.conj, Formula.conjuncts, Formula.compare, SymbolTable.Names, hx]

end Variable

namespace Analyzer

/-- The constraints made are those of the declarations in order, under the table that
has all their names. -/
theorem domainConstraints_made : ∀ {declared : List Variable} {table table' : SymbolTable} {fs : List Formula},
    domainConstraints declared table = .ok (fs, table') →
      table' = table.register (declared.map (·.name)) ∧
        List.Forall₂ (fun f v => ∃ x, table'.name? x = some v.name ∧ v.constraint x = .ok f) fs declared
  | [], table, _, _, h => by
    cases h
    exact ⟨rfl, .nil⟩
  | v :: rest, table, table', fs, h => by
    simp only [domainConstraints] at h
    split at h
    · cases h
    · next f constraint =>
      split at h
      · cases h
      · next gs table₁ more =>
        cases h
        obtain ⟨rfl, made⟩ := domainConstraints_made more
        -- the first constraint is made before the other names are there
        have named := ((table.intern v.name).2.extends_register (rest.map (·.name))).name? (table.name?_intern v.name)
        exact ⟨rfl, .cons ⟨_, named, constraint⟩ made⟩

theorem domainConstraints_constrain {declared : List Variable} {table table' : SymbolTable} {fs : List Formula}
    (h : domainConstraints declared table = .ok (fs, table')) :
    table'.Extends table ∧ List.Forall₂ (fun f v => f.Constrains table' v) fs declared := by
  obtain ⟨rfl, made⟩ := domainConstraints_made h
  refine ⟨table.extends_register _, made.imp fun f v made => ?_⟩
  obtain ⟨x, named, constraint⟩ := made
  exact Variable.constraint_constrains named constraint

theorem domainConstraints_ok : ∀ (declared : List Variable) (table : SymbolTable),
    (∀ v ∈ declared, ∃ range, v.bounds = .ok range) → ∃ result, domainConstraints declared table = .ok result
  | [], table, _ => ⟨_, rfl⟩
  | v :: rest, table, valid => by
    obtain ⟨range, bounds⟩ := valid v (List.mem_cons_self ..)
    obtain ⟨result, more⟩ := domainConstraints_ok rest (table.intern v.name).2
      fun u hu => valid u (List.mem_cons_of_mem _ hu)
    have constraint : ∃ f, v.constraint (table.intern v.name).1 = .ok f := by
      rw [Variable.constraint, bounds]
      exact ⟨_, rfl⟩
    obtain ⟨f, constraint⟩ := constraint
    refine ⟨(f :: result.1, result.2), ?_⟩
    simp only [domainConstraints, constraint, more]

end Analyzer

end TransitionGuards
