import TransitionGuards.Proofs.Strictness

/-
  What a guard says is settled by its comparisons.

  `truth` is what comes of a guard, an expression or a formula once each of its
  comparisons is taken as true or false, by whatever rule. `holds` is the case
  in which 64-bit values decide the comparisons. Two rules that agree on the
  comparisons of a guard give it one truth (`Guard.truth_congr`).
-/

namespace TransitionGuards

/-! ## Expressions -/

namespace Expression

def comparison? : Expression → Option Comparison
  | .compare c => some c
  | _ => none

/-- The comparisons of the expression from left to right. -/
def comparisons (e : Expression) : List Comparison := e.leaves.filterMap comparison?

mutual

/-- What comes of the expression where `t` decides the comparisons. -/
def truth (t : Comparison → Bool) : Expression → Bool
  | .empty => true
  | .compare c => t c
  | .all parts => truthAll t parts
  | .any parts => truthAny t parts
  | .unparsed .. => true

def truthAll (t : Comparison → Bool) : List Expression → Bool
  | [] => true
  | e :: rest => truth t e && truthAll t rest

def truthAny (t : Comparison → Bool) : List Expression → Bool
  | [] => false
  | e :: rest => truth t e || truthAny t rest

end

variable {t u : Comparison → Bool}

theorem truthAll_eq : ∀ es : List Expression, truthAll t es = es.all (truth t)
  | [] => rfl
  | e :: rest => by rw [truthAll, truthAll_eq rest, List.all_cons]

theorem truthAny_eq : ∀ es : List Expression, truthAny t es = es.any (truth t)
  | [] => rfl
  | e :: rest => by rw [truthAny, truthAny_eq rest, List.any_cons]

theorem comparisons_parts (parts : List Expression) :
    (leavesAll parts).filterMap comparison? = parts.flatMap comparisons := by
  rw [leavesAll_eq, List.filterMap_flatMap]
  rfl

theorem mem_comparisons_parts {parts : List Expression} {e : Expression} {c : Comparison} (he : e ∈ parts)
    (hc : c ∈ e.comparisons) : c ∈ (leavesAll parts).filterMap comparison? := by
  rw [comparisons_parts]
  exact List.mem_flatMap.2 ⟨e, he, hc⟩

theorem truth_congr {e : Expression} (same : ∀ c ∈ e.comparisons, t c = u c) : e.truth t = e.truth u := by
  induction e with
  | empty => rfl
  | unparsed text reason => rfl
  | compare c => exact same c (List.mem_singleton_self c)
  | all parts ih =>
    rw [truth, truth, truthAll_eq, truthAll_eq]
    exact all_congr_mem fun e he => ih e he fun c hc => same c (mem_comparisons_parts he hc)
  | any parts ih =>
    rw [truth, truth, truthAny_eq, truthAny_eq]
    exact any_congr_mem fun e he => ih e he fun c hc => same c (mem_comparisons_parts he hc)

theorem holds_eq_truth (σ : Valuation) (e : Expression) : e.holds σ = e.truth (·.holds σ) := by
  induction e with
  | empty => rfl
  | unparsed text reason => rfl
  | compare c => rfl
  | all parts ih =>
    rw [holds, truth, holdsAll_eq, truthAll_eq]
    exact all_congr_mem ih
  | any parts ih =>
    rw [holds, truth, holdsAny_eq, truthAny_eq]
    exact any_congr_mem ih

end Expression

/-! ## Guards -/

/-- The condition as a comparison of its variable. -/
def FieldCondition.comparison (c : FieldCondition) : Comparison := ⟨c.variableName, c.comparator, c.code⟩

namespace Guard

/-- The comparisons that the guard makes, its text read under the given
precedence. -/
def comparisons (precedence : Precedence) : Guard → List Comparison
  | .protocol conditions => conditions.map (·.comparison)
  | .manual text => (Expression.parse precedence text).comparisons
  | .alwaysTrue => []

/-- What comes of the guard where `t` decides the comparisons. -/
def truth (precedence : Precedence) (t : Comparison → Bool) : Guard → Bool
  | .protocol conditions => conditions.all fun c => t c.comparison
  | .manual text => (Expression.parse precedence text).truth t
  | .alwaysTrue => true

variable {precedence : Precedence} {g : Guard}

theorem truth_congr {t u : Comparison → Bool} (same : ∀ c ∈ g.comparisons precedence, t c = u c) :
    g.truth precedence t = g.truth precedence u := by
  cases g with
  | alwaysTrue => rfl
  | protocol conditions =>
    exact all_congr_mem fun c hc => same _ (List.mem_map_of_mem hc)
  | manual text => exact Expression.truth_congr same

theorem holds_eq_truth (σ : Valuation) : g.holds precedence σ = g.truth precedence (·.holds σ) := by
  cases g with
  | alwaysTrue => rfl
  | protocol conditions => rfl
  | manual text => exact Expression.holds_eq_truth σ _

/-- What holds depends on the values of the names in the comparisons. -/
theorem holds_congr {σ τ : Valuation} (same : ∀ c ∈ g.comparisons precedence, σ c.name = τ c.name) :
    g.holds precedence σ = g.holds precedence τ := by
  rw [holds_eq_truth, holds_eq_truth]
  apply truth_congr
  intro c hc
  rw [Comparison.holds, Comparison.holds, same c hc]

end Guard

/-! ## Formulas -/

namespace Formula

mutual

/-- What comes of the formula where `t` decides the comparisons. -/
def truth (t : Atom → Bool) : Formula → Bool
  | .const b => b
  | .atom a => t a
  | .not f => !truth t f
  | .and parts => truthAll t parts
  | .or parts => truthAny t parts

def truthAll (t : Atom → Bool) : List Formula → Bool
  | [] => true
  | f :: rest => truth t f && truthAll t rest

def truthAny (t : Atom → Bool) : List Formula → Bool
  | [] => false
  | f :: rest => truth t f || truthAny t rest

end

theorem truthAll_eq {t : Atom → Bool} : ∀ fs : List Formula, truthAll t fs = fs.all (truth t)
  | [] => rfl
  | f :: rest => by rw [truthAll, truthAll_eq rest, List.all_cons]

theorem truthAny_eq {t : Atom → Bool} : ∀ fs : List Formula, truthAny t fs = fs.any (truth t)
  | [] => rfl
  | f :: rest => by rw [truthAny, truthAny_eq rest, List.any_cons]

/-- A rule that agrees with the values on the atoms says what holds. -/
theorem truth_eq_holds {t : Atom → Bool} {s : Values} {f : Formula} (same : ∀ a ∈ f.atoms, t a = a.holds s) :
    f.truth t = f.holds s := by
  induction f with
  | const b => rfl
  | atom a => exact same a (List.mem_singleton_self a)
  | not f ih => exact congrArg (!·) (ih same)
  | and parts ih =>
    rw [truth, truthAll_eq, holds_and]
    exact all_congr_mem fun f hf => ih f hf fun a ha => same a (by simpa using ⟨f, hf, ha⟩)
  | or parts ih =>
    rw [truth, truthAny_eq, holds_or]
    exact any_congr_mem fun f hf => ih f hf fun a ha => same a (by simpa using ⟨f, hf, ha⟩)

end Formula

end TransitionGuards
