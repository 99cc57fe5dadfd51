import TransitionGuards.Proofs.Domains
import TransitionGuards.Proofs.Pairs

/-
  Verdicts on sets of guards are exact.

  A gap is a valuation within all declared bounds on which no guard holds.
  `CoverageVerdict` lists what the built-in backend can lead to: a fallback, a
  witness of a gap, or no witness because there is no gap. Guards that compile
  to `true` leave none either, whatever the declarations are.
-/

namespace TransitionGuards

/-- Whether the values are within the bounds of all declarations, and no guard
holds. -/
def IsGap (precedence : Precedence) (guards : List Guard) (declared : List Variable) (σ : Valuation) : Prop :=
  (∀ v ∈ declared, v.admits (σ v.name) = true) ∧ ∀ g ∈ guards, g.holds precedence σ = false

/-- The names of compiled guards, and of the declared variables that have a
bound. -/
def SymbolTable.GapNames (table : SymbolTable) (fs : List Formula) (declared : List Variable) (name : String) : Prop :=
  table.Names fs name ∨ ∃ v ∈ declared, v.name = name ∧ v.isBounded = true

/-- The right verdicts on a set of guards. -/
inductive CoverageVerdict (mode : CompileMode) (guards : List Guard) (declared : List Variable) :
    CompletenessVerdict → Prop where
  | fallback (message : String) : CoverageVerdict mode guards declared (.fallback message)
  | gap {fs : List Formula} {table : SymbolTable} {w : Witness}
      (compiled : Guard.compileList mode guards .empty = (.ok fs, table))
      (attests : w.Attests (table.GapNames fs declared) (IsGap mode.precedence guards declared)) :
      CoverageVerdict mode guards declared (.gap w)
  | covered (never : guards ≠ [] → ¬∃ σ, IsGap mode.precedence guards declared σ) :
      CoverageVerdict mode guards declared .covered

namespace CoverageVerdict
variable {mode : CompileMode} {guards : List Guard} {declared : List Variable} {v : CompletenessVerdict}

theorem witnessed (h : CoverageVerdict mode guards declared v) (incomplete : v.complete = false) :
    Witnessed v.gapModel (IsGap mode.precedence guards declared) := by
  cases h with
  | fallback message => cases incomplete
  | gap _ attests => exact ⟨_, _, rfl, attests⟩
  | covered never => cases incomplete

theorem never (h : CoverageVerdict mode guards declared v) (complete : v.complete = true)
    (answered : v.error = none) (nonempty : guards ≠ []) : ¬∃ σ, IsGap mode.precedence guards declared σ := by
  cases h with
  | fallback message => cases answered
  | gap _ attests => cases complete
  | covered never => exact never nonempty

end CoverageVerdict

/-! ## The query -/

section
variable {precedence : Precedence} {guards : List Guard} {declared : List Variable}
variable {table table' : SymbolTable} {fs domains : List Formula}

/-- What the query says: each declaration its bounds, and the last assertion
that no guard holds. -/
def gapMeanings (precedence : Precedence) (guards : List Guard) (declared : List Variable) :
    List (Valuation → Bool) :=
  declared.map (fun v σ => v.admits (σ v.name)) ++ [fun σ => !guards.any (·.holds precedence σ)]

theorem forall_gapMeanings (σ : Valuation) :
    (∀ meaning ∈ gapMeanings precedence guards declared, meaning σ = true) ↔ IsGap precedence guards declared σ := by
  simp [gapMeanings, IsGap, or_imp, forall_and]

theorem gapQuery_means (ext : table'.Extends table)
    (guardsMean : List.Forall₂ (fun f (g : Guard) => f.Means table fun σ => g.holds precedence σ) fs guards)
    (constrain : List.Forall₂ (fun f v => f.Constrains table' v) domains declared) :
    List.Forall₂ (fun f meaning => f.Means table' meaning) (domains ++ [(Formula.disj fs).neg])
      (gapMeanings precedence guards declared) := by
  apply List.rel_append
  · rw [List.forall₂_map_right_iff]
    exact constrain.imp fun _ _ h => h.means
  · exact .cons ((Formula.Means.disj guardsMean).neg.later ext) .nil

theorem disj_ne_true {σ : Valuation}
    (guardsMean : List.Forall₂ (fun f (g : Guard) => f.Means table fun σ => g.holds precedence σ) fs guards)
    (gap : IsGap precedence guards declared σ) : Formula.disj fs ≠ .const true := by
  intro covered
  have holds := (Formula.Means.disj guardsMean).holds σ _ (table.reads_values σ)
  rw [covered, Formula.holds_const] at holds
  obtain ⟨g, hg, h⟩ := List.any_eq_true.1 holds.symm
  rw [gap.2 g hg] at h
  cases h

/-- The query speaks of the names of the guards and of those with a bound: the
last assertion has all the atoms of the guards. -/
theorem gapQuery_names (ext : table'.Extends table) (known : ∀ f ∈ fs, ∀ a ∈ f.atoms, table.Knows a.var)
    (constrain : List.Forall₂ (fun f v => f.Constrains table' v) domains declared)
    (uncovered : Formula.disj fs ≠ .const true) (name : String) :
    table'.Names (domains ++ [(Formula.disj fs).neg]) name ↔ table.GapNames fs declared name := by
  have negated : table'.Names [(Formula.disj fs).neg] name ↔ table.Names fs name := by
    rw [← ext.names_iff known]
    apply SymbolTable.names_congr
    rw [List.flatMap_singleton, Formula.atoms_neg]
    exact (Formula.atoms_disj fs).resolve_left uncovered
  rw [SymbolTable.names_append, names_of_constrain constrain, negated, SymbolTable.GapNames, or_comm]

end

theorem Formula.isTrue_iff {f : Formula} : f.isTrue = true ↔ f = .const true := by
  unfold isTrue
  split
  · exact ⟨fun _ => rfl, fun _ => rfl⟩
  · next other => exact ⟨nofun, fun same => absurd same other⟩

/-- The verdict that an answer leads to. -/
def CompletenessVerdict.ofAnswer : Except SolverError Outcome → CompletenessVerdict
  | .error e => .fallback e.message
  | .ok (.sat w) => .gap w
  | .ok .unsat => .covered

namespace Analyzer
variable {config : Config} {clock : Clock} {guards : List Guard} {declared : List Variable}

/-- A query on a set of guards compiles them, then makes the constraints of the
declarations, and only then starts the clock. -/
theorem checkComplete_eq {m : Type → Type} [Monad m] [LawfulMonad m] (config : Config) (start : m Clock)
    (guards : List Guard) (declared : List Variable) :
    checkComplete ⟨config, .builtin start⟩ guards declared =
      match Guard.compileList ⟨config.precedence, config.strict⟩ guards .empty with
      | (.error e, _) => pure (.fallback e.message)
      | (.ok fs, table) =>
        if fs.all (·.isTrue) then pure .covered
        else match domainConstraints declared table with
          | .error e => pure (.fallback e.message)
          | .ok (domains, table) => start >>= fun clock =>
            pure (.ofAnswer (decideAll clock table (domains ++ [(Formula.disj fs).neg]) config.limits)) := by
  rw [checkComplete, tryCheckComplete, mode]
  cases Guard.compileList ⟨config.precedence, config.strict⟩ guards .empty with
  | mk result table =>
    cases result with
    | error e => exact pure_bind _ _
    | ok fs =>
      dsimp only
      split
      · exact pure_bind _ _
      · cases domainConstraints declared table with
        | error e => exact pure_bind _ _
        | ok domains =>
          simp only [Backend.builtin, bind_assoc, pure_bind]
          congr 1
          funext clock
          cases decideAll clock domains.2 (domains.1 ++ [(Formula.disj fs).neg]) config.limits with
          | error e => exact pure_bind _ _
          | ok outcome => cases outcome <;> exact pure_bind _ _

theorem no_gap_of_isTrue {mode : CompileMode} {fs : List Formula} {table : SymbolTable}
    (compiled : Guard.compileList mode guards .empty = (.ok fs, table)) (all : fs.all (·.isTrue) = true)
    (nonempty : guards ≠ []) : ¬∃ σ, IsGap mode.precedence guards declared σ := by
  intro h
  obtain ⟨σ, _, fail⟩ := h
  have means := Guard.compileList_means compiled
  cases means with
  | nil => exact nonempty rfl
  | @cons f g _ rest first _ =>
    rw [List.all_cons, Bool.and_eq_true] at all
    have isTrue : f = .const true := Formula.isTrue_iff.1 all.1
    have holds := first.holds σ _ (table.reads_values σ)
    rw [isTrue, fail g (List.mem_cons_self ..)] at holds
    cases holds

/-- The verdict on a set of guards is right. -/
theorem checkComplete_right (config : Config) (clock : Clock) (guards : List Guard) (declared : List Variable) :
    CoverageVerdict (builtin config clock).mode guards declared
      ((builtin config clock).checkComplete guards declared).run := by
  rw [builtin, checkComplete_eq]
  split
  · exact .fallback _
  · next fs table compiled =>
    split
    · next all => exact .covered (no_gap_of_isTrue compiled all)
    · split
      · exact .fallback _
      · next domains table' constraints =>
        have guardsMean := Guard.compileList_means compiled
        obtain ⟨ext, constrain⟩ := domainConstraints_constrain constraints
        have means := gapQuery_means ext guardsMean constrain
        show CoverageVerdict _ guards declared
          (.ofAnswer (decideAll clock table' (domains ++ [(Formula.disj fs).neg]) config.limits))
        cases answer : decideAll clock table' (domains ++ [(Formula.disj fs).neg]) config.limits with
        | error e => exact .fallback _
        | ok outcome =>
          cases outcome with
          | sat w =>
            have attests := attests_of_sat means answer
            -- there is a gap, so the disjunction was not folded to `true` and its names are all asked for
            obtain ⟨σ, possible⟩ := attests.possible
            have known : ∀ f ∈ fs, ∀ a ∈ f.atoms, table.Knows a.var :=
              fun f hf => (Formula.Means.all_built guardsMean f hf).known_var
            have uncovered := disj_ne_true guardsMean ((forall_gapMeanings σ).1 possible)
            have names := gapQuery_names ext known constrain uncovered
            exact .gap compiled (attests.congr names fun σ => (forall_gapMeanings σ).1)
          | unsat =>
            apply CoverageVerdict.covered
            intro _ possible
            obtain ⟨σ, gap⟩ := possible
            exact refuted_of_unsat means answer σ ((forall_gapMeanings σ).2 gap)

/-- A set of guards with a gap is found incomplete, unless the verdict is a
fallback. -/
theorem incomplete_iff (nonempty : guards ≠ [])
    (answered : ((builtin config clock).checkComplete guards declared).run.error = none) :
    ((builtin config clock).checkComplete guards declared).run.complete = false ↔
      ∃ σ, IsGap config.precedence guards declared σ := by
  have right := checkComplete_right config clock guards declared
  generalize ((builtin config clock).checkComplete guards declared).run = v at answered right
  cases right with
  | fallback message => cases answered
  | gap _ attests => exact ⟨fun _ => attests.possible, fun _ => rfl⟩
  | covered never => exact ⟨nofun, fun h => absurd h (never nonempty)⟩

theorem checkComplete_answered (lenient : config.strict = false) (noTimeout : config.timeoutMs = none)
    (noBudget : config.maxDecisions = none) (valid : ∀ v ∈ declared, ∃ range, v.bounds = .ok range) :
    ((builtin config clock).checkComplete guards declared).run.error = none := by
  have unbounded := Config.limits_eq_unbounded noTimeout noBudget
  rw [builtin, checkComplete_eq]
  split
  · next e table failed =>
    exact absurd failed (Guard.compileList_ne_error lenient)
  · next fs table _ =>
    obtain ⟨⟨domains, table'⟩, constraints⟩ := domainConstraints_ok declared table valid
    rw [constraints]
    split
    · rfl
    · obtain ⟨outcome, answer⟩ := decideAll_unbounded clock table' (domains ++ [(Formula.disj fs).neg])
      show (CompletenessVerdict.ofAnswer
        (decideAll clock table' (domains ++ [(Formula.disj fs).neg]) config.limits)).error = none
      rw [unbounded, answer]
      cases outcome <;> rfl

/-! ## Exactness -/

/-- A set of guards is found incomplete exactly if there is a gap, whatever the
settings, unless the verdict is a fallback. The text with the verdict is that of
a witness over the variables of the compiled guards and the variables with a
bound. No guards at all count as complete. Without limits, strictness and
declarations that leave no value there is no fallback. -/
theorem checkComplete_exact (config : Config) (clock : Clock) (guards : List Guard) (declared : List Variable) :
    let a := builtin config clock
    let v := (a.checkComplete guards declared).run
    (guards = [] → v.complete = true ∧ v.error = none) ∧
    (guards ≠ [] → v.error = none →
      (v.complete = false ↔ ∃ σ, IsGap config.precedence guards declared σ) ∧
      (v.complete = false → ∃ fs table, ∃ w : Witness, Guard.compileList a.mode guards .empty = (.ok fs, table) ∧
        v.gapModel = some w.text ∧
        w.Attests (table.GapNames fs declared) (IsGap config.precedence guards declared))) ∧
    (config.strict = false → config.timeoutMs = none → config.maxDecisions = none →
      (∀ d ∈ declared, ∃ range, d.bounds = .ok range) → v.error = none) := by
  refine ⟨?_, fun nonempty answered => ?_, checkComplete_answered⟩
  · intro empty
    subst empty
    rw [builtin, checkComplete_eq]
    exact ⟨rfl, rfl⟩
  · refine ⟨incomplete_iff nonempty answered, fun incomplete => ?_⟩
    have right := checkComplete_right config clock guards declared
    generalize ((builtin config clock).checkComplete guards declared).run = v at right incomplete
    cases right with
    | fallback message => cases incomplete
    | gap compiled attests => exact ⟨_, _, _, compiled, rfl, attests⟩
    | covered never => cases incomplete

/-- A guard that leaves the values from 1 to 3 of its variable, which is
declared twice. -/
def uncovered : List Guard × List Variable :=
  ([.protocol [.of "n" .gt (.integer 3)]], [.ofInt "field_n" (some 1) none, .ofInt "field_n" (some 0) (some 9)])

theorem checkComplete_exact_uncovered :
    let v := ((builtin .unlimited .nominal).checkComplete uncovered.1 uncovered.2).run
    uncovered.1 ≠ [] ∧ v.error = none ∧ v.complete = false ∧
      ∃ σ, IsGap Config.unlimited.precedence uncovered.1 uncovered.2 σ := by
  have nonempty : uncovered.1 ≠ [] := List.cons_ne_nil _ _
  have valid : ∀ d ∈ uncovered.2, ∃ range, d.bounds = .ok range :=
    List.forall_mem_cons.2 ⟨⟨_, rfl⟩, List.forall_mem_singleton.2 ⟨_, rfl⟩⟩
  have result := checkComplete_exact .unlimited .nominal uncovered.1 uncovered.2
  have answered := result.2.2 rfl rfl rfl valid
  have incomplete : ((builtin .unlimited .nominal).checkComplete uncovered.1 uncovered.2).run.complete = false := by cbv
  exact ⟨nonempty, answered, incomplete, (result.2.1 nonempty answered).1.1 incomplete⟩

end Analyzer

end TransitionGuards
