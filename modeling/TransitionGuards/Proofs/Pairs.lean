import TransitionGuards.Analyzer
import TransitionGuards.Proofs.Answers

/-
  Verdicts on two guards are exact.

  `PairVerdict` lists what the built-in backend can lead to: a fallback, a
  witness on which both guards hold, or no witness because there is none. Its
  single use of the compiler and of the procedure is `checkPair_right`; the
  rest is read off the three cases.
-/

namespace TransitionGuards

/-- The analyzer on the built-in backend, for one query. -/
def Analyzer.builtin (config : Config) (clock : Clock) : Analyzer Id := ⟨config, .builtin (pure clock)⟩

def Guard.BothHold (precedence : Precedence) (g₁ g₂ : Guard) (σ : Valuation) : Prop :=
  g₁.holds precedence σ = true ∧ g₂.holds precedence σ = true

/-- The right verdicts on two guards. -/
inductive PairVerdict (mode : CompileMode) (g₁ g₂ : Guard) : SatisfiabilityVerdict → Prop where
  | fallback (message : String) : PairVerdict mode g₁ g₂ (.fallback message)
  | overlapping {fs : List Formula} {table : SymbolTable} {w : Witness}
      (compiled : Guard.compileList mode [g₁, g₂] .empty = (.ok fs, table))
      (attests : w.Attests (table.Names fs) (Guard.BothHold mode.precedence g₁ g₂)) :
      PairVerdict mode g₁ g₂ (.overlapping w)
  | disjoint (never : ¬∃ σ, Guard.BothHold mode.precedence g₁ g₂ σ) : PairVerdict mode g₁ g₂ .disjoint

namespace PairVerdict
variable {mode : CompileMode} {g₁ g₂ : Guard} {v : SatisfiabilityVerdict}

theorem witnessed (h : PairVerdict mode g₁ g₂ v) (sat : v.satisfiable = true) :
    Witnessed v.model (Guard.BothHold mode.precedence g₁ g₂) := by
  cases h with
  | fallback message => cases sat
  | overlapping _ attests => exact ⟨_, _, rfl, attests⟩
  | disjoint never => cases sat

theorem never (h : PairVerdict mode g₁ g₂ v) (unsat : v.satisfiable = false) (answered : v.error = none) :
    ¬∃ σ, Guard.BothHold mode.precedence g₁ g₂ σ := by
  cases h with
  | fallback message => cases answered
  | overlapping _ attests => cases unsat
  | disjoint never => exact never

end PairVerdict

/-- The default settings without a bound on the decisions. -/
def Config.unlimited : Config := { Config.default with maxDecisions := none }

theorem Config.limits_eq_unbounded {config : Config} (noTimeout : config.timeoutMs = none)
    (noBudget : config.maxDecisions = none) : config.limits = .unbounded := by
  rw [limits, noTimeout, noBudget]
  rfl

/-- The verdict that an answer leads to. -/
def SatisfiabilityVerdict.ofAnswer : Except SolverError Outcome → SatisfiabilityVerdict
  | .error e => .fallback e.message
  | .ok (.sat w) => .overlapping w
  | .ok .unsat => .disjoint

namespace Analyzer
variable {config : Config} {clock : Clock} {g₁ g₂ : Guard}

/-- A query on two guards compiles them, and only then starts the clock. -/
theorem checkPair_eq {m : Type → Type} [Monad m] [LawfulMonad m] (config : Config) (start : m Clock) (g₁ g₂ : Guard) :
    checkPair ⟨config, .builtin start⟩ g₁ g₂ =
      match Guard.compileList ⟨config.precedence, config.strict⟩ [g₁, g₂] .empty with
      | (.error e, _) => pure (.fallback e.message)
      | (.ok fs, table) => start >>= fun clock => pure (.ofAnswer (decideAll clock table fs config.limits)) := by
  rw [checkPair, tryCheckPair, mode]
  cases Guard.compileList ⟨config.precedence, config.strict⟩ [g₁, g₂] .empty with
  | mk result table =>
    cases result with
    | error e => exact pure_bind _ _
    | ok fs =>
      simp only [Backend.builtin, bind_assoc, pure_bind]
      congr 1
      funext clock
      cases decideAll clock table fs config.limits with
      | error e => exact pure_bind _ _
      | ok outcome => cases outcome <;> exact pure_bind _ _

/-- The verdict on two guards is right. -/
theorem checkPair_right (config : Config) (clock : Clock) (g₁ g₂ : Guard) :
    PairVerdict (builtin config clock).mode g₁ g₂ ((builtin config clock).checkPair g₁ g₂).run := by
  have both : ∀ σ, (∀ g ∈ [g₁, g₂], g.holds config.precedence σ = true) ↔
      Guard.BothHold config.precedence g₁ g₂ σ := by
    intro σ
    rw [List.forall_mem_cons, List.forall_mem_singleton, Guard.BothHold]
  rw [builtin, checkPair_eq]
  split
  · exact .fallback _
  · next fs table compiled =>
    have means := Guard.compileList_means compiled
    show PairVerdict _ g₁ g₂ (.ofAnswer (decideAll clock table fs config.limits))
    cases answer : decideAll clock table fs config.limits with
    | error e => exact .fallback _
    | ok outcome =>
      cases outcome with
      | sat w =>
        have attests := attests_of_sat means answer
        exact .overlapping compiled (attests.congr (fun _ => Iff.rfl) fun σ => (both σ).1)
      | unsat =>
        apply PairVerdict.disjoint
        intro possible
        obtain ⟨σ, hold⟩ := possible
        exact refuted_of_unsat means answer σ ((both σ).2 hold)

/-- Guards that overlap are found to overlap, unless the verdict is a
fallback. -/
theorem satisfiable_iff (answered : ((builtin config clock).checkPair g₁ g₂).run.error = none) :
    ((builtin config clock).checkPair g₁ g₂).run.satisfiable = true ↔
      ∃ σ, Guard.BothHold config.precedence g₁ g₂ σ := by
  have right := checkPair_right config clock g₁ g₂
  generalize ((builtin config clock).checkPair g₁ g₂).run = v at answered right
  cases right with
  | fallback message => cases answered
  | overlapping _ attests => exact ⟨fun _ => attests.possible, fun _ => rfl⟩
  | disjoint never => exact ⟨nofun, fun h => absurd h never⟩

theorem checkPair_answered (lenient : config.strict = false) (noTimeout : config.timeoutMs = none)
    (noBudget : config.maxDecisions = none) : ((builtin config clock).checkPair g₁ g₂).run.error = none := by
  have unbounded := Config.limits_eq_unbounded noTimeout noBudget
  rw [builtin, checkPair_eq]
  split
  · next e table failed =>
    exact absurd failed (Guard.compileList_ne_error lenient)
  · next fs table _ =>
    obtain ⟨outcome, answer⟩ := decideAll_unbounded clock table fs
    show (SatisfiabilityVerdict.ofAnswer (decideAll clock table fs config.limits)).error = none
    rw [unbounded, answer]
    cases outcome <;> rfl

/-! ## Exactness -/

/-- Two guards are found to overlap exactly if some valuation makes both hold,
whatever the settings, unless the verdict is a fallback. The text with the
verdict is that of a witness over the variables of the compiled guards, on which
both hold. Without limits and strictness there is no fallback. -/
theorem checkPair_exact (config : Config) (clock : Clock) (g₁ g₂ : Guard) :
    let a := builtin config clock
    let v := (a.checkPair g₁ g₂).run
    (v.error = none →
      (v.satisfiable = true ↔ ∃ σ, Guard.BothHold config.precedence g₁ g₂ σ) ∧
      (v.satisfiable = true → ∃ fs table, ∃ w : Witness, Guard.compileList a.mode [g₁, g₂] .empty = (.ok fs, table) ∧
        v.model = some w.text ∧ w.Attests (table.Names fs) (Guard.BothHold config.precedence g₁ g₂))) ∧
    (config.strict = false → config.timeoutMs = none → config.maxDecisions = none → v.error = none) := by
  refine ⟨fun answered => ⟨satisfiable_iff answered, fun sat => ?_⟩, checkPair_answered⟩
  have right := checkPair_right config clock g₁ g₂
  generalize ((builtin config clock).checkPair g₁ g₂).run = v at right sat
  cases right with
  | fallback message => cases sat
  | overlapping compiled attests => exact ⟨_, _, _, compiled, rfl, attests⟩
  | disjoint never => cases sat

/-- Two guards with a field in common, which only the value 4 satisfies. -/
def sharedField : Guard × Guard :=
  (.protocol [.of "n" .gt (.integer 3)], .protocol [.of "n" .le (.integer 4)])

theorem checkPair_exact_sharedField :
    let v := ((builtin .unlimited .nominal).checkPair sharedField.1 sharedField.2).run
    v.error = none ∧ v.satisfiable = true ∧
      ∃ σ, Guard.BothHold Config.unlimited.precedence sharedField.1 sharedField.2 σ := by
  have result := checkPair_exact .unlimited .nominal sharedField.1 sharedField.2
  have answered := result.2 rfl rfl rfl
  have sat : ((builtin .unlimited .nominal).checkPair sharedField.1 sharedField.2).run.satisfiable = true := by cbv
  exact ⟨answered, sat, (result.1 answered).1.1 sat⟩

end Analyzer

end TransitionGuards
