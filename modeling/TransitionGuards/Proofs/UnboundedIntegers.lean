import TransitionGuards.Proofs.Comparisons
import TransitionGuards.Proofs.Coverage

/-
  Answers that hold for all integers.

  The search tries 64-bit values only. As long as no constant is the least or
  the greatest 64-bit integer this loses nothing: such constants cannot tell an
  integer from the nearest 64-bit one (`holds_nearest`), so formulas and guards
  that hold on some integers hold on 64-bit ones too. What is found
  unsatisfiable, disjoint or complete is so over the unbounded integers
  (`decideAll_overIntegers`). The bounds of declarations may be the extremes:
  an integer within the bounds is nearest to a value within them.
-/

namespace TransitionGuards

/-! ## Integers and 64-bit integers -/

def Comparator.relates : Comparator → Int → Int → Bool
  | .eq, lhs, rhs => decide (lhs = rhs)
  | .ne, lhs, rhs => !decide (lhs = rhs)
  | .gt, lhs, rhs => decide (rhs < lhs)
  | .ge, lhs, rhs => decide (rhs ≤ lhs)
  | .lt, lhs, rhs => decide (lhs < rhs)
  | .le, lhs, rhs => decide (lhs ≤ rhs)

theorem Comparator.relates_toInt (c : Comparator) (v k : Int64) : c.relates v.toInt k.toInt = c.holds v k := by
  have same : decide (v.toInt = k.toInt) = (v == k) := decide_eq_decide.2 Int64.toInt_inj
  cases c with
  | eq => exact same
  | ne => exact congrArg (!·) same
  | gt => exact decide_eq_decide.2 Int64.lt_iff_toInt_lt.symm
  | ge => exact decide_eq_decide.2 Int64.le_iff_toInt_le.symm
  | lt => exact decide_eq_decide.2 Int64.lt_iff_toInt_lt.symm
  | le => exact decide_eq_decide.2 Int64.le_iff_toInt_le.symm

/-- Strictly between the least and the greatest 64-bit integer. -/
def IsInner (k : Int64) : Prop := Int64.minValue < k ∧ k < Int64.maxValue

instance (k : Int64) : Decidable (IsInner k) := inferInstanceAs (Decidable (_ ∧ _))

/-- The nearest 64-bit integer. -/
def nearest (n : Int) : Int64 := Int64.ofInt (max Int64.minValue.toInt (min n Int64.maxValue.toInt))

theorem toInt_nearest (n : Int) : (nearest n).toInt = max Int64.minValue.toInt (min n Int64.maxValue.toInt) := by
  have greatest : Int64.maxValue.toInt < 2 ^ 63 := Int64.toInt_lt _
  have ordered : Int64.minValue.toInt ≤ Int64.maxValue.toInt := Int64.toInt_le _
  apply Int64.toInt_ofInt_of_le
  · exact le_max_left _ _
  · omega

theorem nearest_toInt (v : Int64) : nearest v.toInt = v := by
  have low := Int64.minValue_le_toInt v
  have high := Int64.toInt_le v
  rw [← Int64.toInt_inj, toInt_nearest]
  omega

/-- An inner constant cannot tell an integer from the nearest 64-bit one. -/
theorem holds_nearest (c : Comparator) (n : Int) {k : Int64} (inner : IsInner k) :
    c.holds (nearest n) k = c.relates n k.toInt := by
  have low := Int64.lt_iff_toInt_lt.1 inner.1
  have high := Int64.lt_iff_toInt_lt.1 inner.2
  have equal : (nearest n).toInt = k.toInt ↔ n = k.toInt := by rw [toInt_nearest]; omega
  have less : (nearest n).toInt < k.toInt ↔ n < k.toInt := by rw [toInt_nearest]; omega
  have greater : k.toInt < (nearest n).toInt ↔ k.toInt < n := by rw [toInt_nearest]; omega
  rw [← Comparator.relates_toInt]
  cases c with
  | eq => exact decide_eq_decide.2 equal
  | ne => exact congrArg (!·) (decide_eq_decide.2 equal)
  | gt => exact decide_eq_decide.2 greater
  | ge => exact decide_eq_decide.2 (by omega)
  | lt => exact decide_eq_decide.2 less
  | le => exact decide_eq_decide.2 (by omega)

/-! ## Formulas -/

namespace Formula
variable {f : Formula} {assertions : List Formula}

/-- The truth value on integers. -/
def holdsOver (s : VarId → Int) (f : Formula) : Bool := f.truth fun a => a.comparator.relates (s a.var) a.value.toInt

theorem holdsOver_toInt (s : Values) (f : Formula) : f.holdsOver (fun x => (s x).toInt) = f.holds s :=
  truth_eq_holds fun a _ => a.comparator.relates_toInt (s a.var) a.value

theorem holdsOver_eq_nearest (inner : ∀ a ∈ f.atoms, IsInner a.value) (s : VarId → Int) :
    f.holdsOver s = f.holds fun x => nearest (s x) :=
  truth_eq_holds fun a ha => (holds_nearest a.comparator (s a.var) (inner a ha)).symm

/-- Formulas with inner constants that hold together on integers do so on 64-bit
integers. -/
theorem exists_holdsOver_iff (inner : ∀ f ∈ assertions, ∀ a ∈ f.atoms, IsInner a.value) :
    (∃ s, ∀ f ∈ assertions, f.holdsOver s = true) ↔ ∃ s : Values, ∀ f ∈ assertions, f.holds s = true := by
  constructor
  · intro h
    obtain ⟨s, hold⟩ := h
    exact ⟨fun x => nearest (s x), fun f hf => holdsOver_eq_nearest (inner f hf) s ▸ hold f hf⟩
  · intro h
    obtain ⟨s, hold⟩ := h
    exact ⟨fun x => (s x).toInt, fun f hf => holdsOver_toInt s f ▸ hold f hf⟩

theorem holdsOver_of_eval {value : VarId → Option Int64} (inner : ∀ a ∈ f.atoms, IsInner a.value)
    (eval : f.eval value = some true) {s : VarId → Int} (agrees : ∀ x v, value x = some v → s x = v.toInt) :
    f.holdsOver s = true := by
  rw [holdsOver_eq_nearest inner]
  apply holds_of_eval eval
  intro x v hv
  rw [agrees x v hv, nearest_toInt]

end Formula

theorem decideAll_unsat_iff {clock : Clock} {table : SymbolTable} {assertions : List Formula}
    (built : ∀ f ∈ assertions, f.Built table.Knows) :
    decideAll clock table assertions .unbounded = .ok .unsat ↔ ¬∃ s : Values, ∀ f ∈ assertions, f.holds s = true := by
  constructor
  · intro answer possible
    obtain ⟨s, hold⟩ := possible
    obtain ⟨f, hf, fails⟩ := unsat_exact (fun f hf => (built f hf).normal) answer s
    rw [hold f hf] at fails
    cases fails
  · intro never
    obtain ⟨outcome, answer⟩ := decideAll_unbounded clock table assertions
    -- a witness would hold on its own values, and there are none
    cases outcome with
    | unsat => exact answer
    | sat w =>
      obtain ⟨choices, finds, _⟩ := finds_of_sat answer
      have hold := finds.complete_holds
      rw [Formula.holds_conj, List.all_eq_true] at hold
      exact absurd ⟨_, hold⟩ never

/-! ## Guards -/

def Comparison.holdsOver (σ : String → Int) (c : Comparison) : Bool := c.comparator.relates (σ c.name) c.value.toInt

namespace Guard
variable {precedence : Precedence} {g : Guard}

/-- Whether the guard holds of integers. -/
def holdsOver (precedence : Precedence) (σ : String → Int) (g : Guard) : Bool := g.truth precedence (·.holdsOver σ)

/-- Whether the guard compares with inner constants only. -/
def IsInner (precedence : Precedence) (g : Guard) : Prop :=
  ∀ c ∈ g.comparisons precedence, TransitionGuards.IsInner c.value

instance : Decidable (g.IsInner precedence) :=
  inferInstanceAs (Decidable (∀ c ∈ g.comparisons precedence, TransitionGuards.IsInner c.value))

theorem holdsOver_toInt (σ : Valuation) :
    g.holdsOver precedence (fun name => (σ name).toInt) = g.holds precedence σ := by
  rw [holds_eq_truth]
  exact truth_congr fun c _ => c.comparator.relates_toInt (σ c.name) c.value

theorem holdsOver_eq_nearest (inner : g.IsInner precedence) (σ : String → Int) :
    g.holdsOver precedence σ = g.holds precedence fun name => nearest (σ name) := by
  rw [holds_eq_truth]
  exact truth_congr fun c hc => (holds_nearest c.comparator (σ c.name) (inner c hc)).symm

/-- Guards with inner constants that hold together on integers do so on 64-bit
integers. -/
theorem exists_holdsOver_iff {g₁ g₂ : Guard} (inner₁ : g₁.IsInner precedence) (inner₂ : g₂.IsInner precedence) :
    (∃ σ, g₁.holdsOver precedence σ = true ∧ g₂.holdsOver precedence σ = true) ↔ ∃ σ, BothHold precedence g₁ g₂ σ := by
  constructor
  · intro h
    obtain ⟨σ, h₁, h₂⟩ := h
    rw [holdsOver_eq_nearest inner₁] at h₁
    rw [holdsOver_eq_nearest inner₂] at h₂
    exact ⟨_, h₁, h₂⟩
  · intro h
    obtain ⟨σ, h₁, h₂⟩ := h
    exact ⟨fun name => (σ name).toInt, (holdsOver_toInt σ).trans h₁, (holdsOver_toInt σ).trans h₂⟩

end Guard

namespace Variable
variable {v : Variable}

def admitsOver (v : Variable) (n : Int) : Bool :=
  match v.bounds with
  | .error _ => false
  | .ok (min, max) => min.all (fun low => decide (low.toInt ≤ n)) && max.all (fun high => decide (n ≤ high.toInt))

theorem admitsOver_toInt (v : Variable) (value : Int64) : v.admitsOver value.toInt = v.admits value := by
  rw [admitsOver, admits]
  cases v.bounds with
  | error e => rfl
  | ok range => simp only [Int64.le_iff_toInt_le]

theorem admits_nearest {n : Int} (h : v.admitsOver n = true) : v.admits (nearest n) = true := by
  rw [← admitsOver_toInt]
  rw [admitsOver] at h ⊢
  cases bounds : v.bounds with
  | error e => rw [bounds] at h; cases h
  | ok range =>
    obtain ⟨min, max⟩ := range
    rw [bounds] at h
    simp only [Bool.and_eq_true, Option.all_eq_true, decide_eq_true_eq] at h ⊢
    rw [toInt_nearest]
    -- a bound is a 64-bit integer, so clamping does not go past it
    constructor
    · intro low hlow
      have := h.1 low hlow
      have := Int64.toInt_le low
      omega
    · intro high hhigh
      have := h.2 high hhigh
      have := Int64.minValue_le_toInt high
      omega

end Variable

/-- Whether the integers are within all declared bounds, and no guard holds. -/
def IsGapOver (precedence : Precedence) (guards : List Guard) (declared : List Variable) (σ : String → Int) : Prop :=
  (∀ v ∈ declared, v.admitsOver (σ v.name) = true) ∧ ∀ g ∈ guards, g.holdsOver precedence σ = false

theorem exists_isGapOver_iff {precedence : Precedence} {guards : List Guard} {declared : List Variable}
    (inner : ∀ g ∈ guards, g.IsInner precedence) :
    (∃ σ, IsGapOver precedence guards declared σ) ↔ ∃ σ, IsGap precedence guards declared σ := by
  constructor
  · intro h
    obtain ⟨σ, within, fail⟩ := h
    exact ⟨fun name => nearest (σ name), fun v hv => Variable.admits_nearest (within v hv),
      fun g hg => Guard.holdsOver_eq_nearest (inner g hg) σ ▸ fail g hg⟩
  · intro h
    obtain ⟨σ, within, fail⟩ := h
    exact ⟨fun name => (σ name).toInt, fun v hv => (v.admitsOver_toInt _).trans (within v hv),
      fun g hg => (Guard.holdsOver_toInt σ).trans (fail g hg)⟩

/-! ## The answers -/

/-- Where no constant is the least or the greatest 64-bit integer, the answers
are about all integers. Without limits, assertions are found unsatisfiable
exactly if they hold together on no integers, and otherwise a witness lists
their variables and makes them hold. Two guards are found disjoint exactly if no
integers make both hold, and guards are found complete exactly if they leave no
gap in the integers, unless the verdict is a fallback. -/
theorem decideAll_overIntegers (clock : Clock) (table : SymbolTable) (assertions : List Formula) (config : Config)
    (g₁ g₂ : Guard) (guards : List Guard) (declared : List Variable) :
    ((∀ f ∈ assertions, f.Built table.Knows) → (∀ f ∈ assertions, ∀ a ∈ f.atoms, IsInner a.value) →
      (decideAll clock table assertions .unbounded = .ok .unsat ↔ ¬∃ s, ∀ f ∈ assertions, f.holdsOver s = true) ∧
      (decideAll clock table assertions .unbounded ≠ .ok .unsat →
        ∃ w, decideAll clock table assertions .unbounded = .ok (.sat w)) ∧
      ∀ w, decideAll clock table assertions .unbounded = .ok (.sat w) → w.Lists (table.Names assertions) ∧
        ∀ s, (∀ x v, w.valueIn table x = some v → s x = v.toInt) → ∀ f ∈ assertions, f.holdsOver s = true) ∧
    (g₁.IsInner config.precedence → g₂.IsInner config.precedence →
      let v := ((Analyzer.builtin config clock).checkPair g₁ g₂).run
      v.error = none → (v.satisfiable = true ↔
        ∃ σ, g₁.holdsOver config.precedence σ = true ∧ g₂.holdsOver config.precedence σ = true)) ∧
    ((∀ g ∈ guards, g.IsInner config.precedence) → guards ≠ [] →
      let v := ((Analyzer.builtin config clock).checkComplete guards declared).run
      v.error = none → (v.complete = false ↔ ∃ σ, IsGapOver config.precedence guards declared σ)) := by
  refine ⟨fun built inner => ⟨?_, fun satisfiable => ?_, fun w answer => ?_⟩, ?_, ?_⟩
  · rw [decideAll_unsat_iff built, Formula.exists_holdsOver_iff inner]
  · obtain ⟨outcome, answer⟩ := decideAll_unbounded clock table assertions
    cases outcome with
    | unsat => exact absurd answer satisfiable
    | sat w => exact ⟨w, answer⟩
  · obtain ⟨lists, eval⟩ := sat_exact (fun f hf => (built f hf).known_var) answer
    exact ⟨lists, fun s agrees f hf => Formula.holdsOver_of_eval (inner f hf) (eval f hf) agrees⟩
  · intro inner₁ inner₂ v answered
    rw [Guard.exists_holdsOver_iff inner₁ inner₂]
    exact Analyzer.satisfiable_iff answered
  · intro inner nonempty v answered
    rw [exists_isGapOver_iff inner]
    exact Analyzer.incomplete_iff nonempty answered

/-- Guards that part the integers next to the greatest constant there may be. -/
def besideGreatest : Guard × Guard :=
  (.protocol [.of "n" .gt (.integer (Int64.maxValue - 2))], .protocol [.of "n" .lt (.integer (Int64.maxValue - 1))])

theorem decideAll_overIntegers_besideGreatest :
    let table : SymbolTable := ⟨["x"], by decide⟩
    let assertions : List Formula := [.compare ⟨0⟩ .gt (Int64.maxValue - 1)]
    let declared : List Variable := [.ofInt "field_n" (some Int64.minValue) none]
    ((∀ f ∈ assertions, f.Built table.Knows) ∧ (∀ f ∈ assertions, ∀ a ∈ f.atoms, IsInner a.value) ∧
      besideGreatest.1.IsInner .legacy ∧ besideGreatest.2.IsInner .legacy) ∧
    (∃ s, ∀ f ∈ assertions, f.holdsOver s = true) ∧
    (¬∃ σ, besideGreatest.1.holdsOver .legacy σ = true ∧ besideGreatest.2.holdsOver .legacy σ = true) ∧
    ¬∃ σ, IsGapOver .legacy [besideGreatest.1, besideGreatest.2] declared σ := by
  intro table assertions declared
  have built : ∀ f ∈ assertions, f.Built table.Knows := List.forall_mem_singleton.2 (.compare _ _ Nat.zero_lt_one)
  have inner : ∀ f ∈ assertions, ∀ a ∈ f.atoms, IsInner a.value := by decide
  have inner₁ : besideGreatest.1.IsInner .legacy := by decide
  have inner₂ : besideGreatest.2.IsInner .legacy := by decide
  have both : ∀ g ∈ [besideGreatest.1, besideGreatest.2], g.IsInner .legacy :=
    List.forall_mem_cons.2 ⟨inner₁, List.forall_mem_singleton.2 inner₂⟩
  have found : decideAll .nominal table assertions .unbounded = .ok (.sat ⟨[("x", Int64.maxValue)]⟩) := by cbv
  have disjoint : ((Analyzer.builtin .unlimited .nominal).checkPair besideGreatest.1 besideGreatest.2).run =
      .disjoint := by cbv
  have covered : ((Analyzer.builtin .unlimited .nominal).checkComplete [besideGreatest.1, besideGreatest.2]
      declared).run = .covered := by cbv
  obtain ⟨onAssertions, onPair, onSet⟩ := decideAll_overIntegers .nominal table assertions .unlimited
    besideGreatest.1 besideGreatest.2 [besideGreatest.1, besideGreatest.2] declared
  refine ⟨⟨built, inner, inner₁, inner₂⟩, ?_, fun possible => ?_, fun possible => ?_⟩
  · by_contra never
    have unsat := (onAssertions built inner).1.2 never
    rw [found] at unsat
    cases unsat
  · have overlap := (onPair inner₁ inner₂ (by rw [disjoint]; rfl)).2 possible
    rw [disjoint] at overlap
    cases overlap
  · have gap := (onSet both (List.cons_ne_nil _ _) (by rw [covered]; rfl)).2 possible
    rw [covered] at gap
    cases gap

/-- No 64-bit integer is greater than the greatest one. -/
example : (Formula.compare ⟨0⟩ .gt Int64.maxValue).holdsOver (fun _ => 2 ^ 63) = true ∧
    decideAll .nominal ⟨["x"], by decide⟩ [.compare ⟨0⟩ .gt Int64.maxValue] .unbounded = .ok .unsat := by
  constructor <;> cbv

end TransitionGuards
