import TransitionGuards.Proofs.Coverage
import TransitionGuards.Proofs.Strictness

/-
  What a backend is asked, and when.

  An analysis compiles the guards, then makes the constraints of the declared
  variables, and then asks the backend, once. The first of these steps to fail
  ends it, and guards that all compile to `true` end it before the
  declarations are looked at. `CoverageRun` and `PairRun` say how a run may end,
  with the queries made up to then; the two operations do just that, and turn
  what went wrong into a fallback of their own (`analyses_in_order`).
-/

namespace TransitionGuards

/-- What a backend is asked. -/
structure Query where
  table : SymbolTable
  assertions : List Formula
  limits : Limits

/-- The backend that answers by a function and notes what it was asked. -/
def Backend.noting (answer : Query → Except SolverError Outcome) : Backend (StateM (List Query)) where
  name := "noting"
  check table assertions limits := do
    modify fun asked => asked ++ [⟨table, assertions, limits⟩]
    pure (answer ⟨table, assertions, limits⟩)

theorem Backend.run_noting (answer : Query → Except SolverError Outcome) (q : Query) (asked : List Query) :
    ((noting answer).check q.table q.assertions q.limits).run asked = (answer q, asked ++ [q]) := rfl

/-- What is wrong with the declaration of a variable. -/
def Variable.refusal? (v : Variable) : Option DomainError :=
  match v.bounds with
  | .error e => some e
  | .ok _ => none

namespace Analyzer
variable {declared : List Variable} {table : SymbolTable} {fs : List Formula}

/-- The constraints of the declarations in order, under the table that has all
their names. -/
def DomainsIn (table : SymbolTable) (declared : List Variable) (fs : List Formula) : Prop :=
  List.Forall₂ (fun f v => ∃ x, table.name? x = some v.name ∧ v.constraint x = .ok f) fs declared

/-- The first declaration that leaves no value ends the making of constraints. -/
theorem domainConstraints_refused {e : DomainError} : ∀ {declared : List Variable} (table : SymbolTable),
    declared.findSome? (·.refusal?) = some e → domainConstraints declared table = .error e
  | v :: rest, table, refused => by
    rw [List.findSome?_cons, Variable.refusal?] at refused
    cases bounds : v.bounds with
    | error e' =>
      rw [bounds] at refused
      cases refused
      simp only [domainConstraints, Variable.constraint, bounds]
    | ok range =>
      rw [bounds] at refused
      simp only [domainConstraints, Variable.constraint, bounds, domainConstraints_refused _ refused]

theorem domainConstraints_eq : ∀ {declared : List Variable} {table : SymbolTable} {fs : List Formula},
    DomainsIn (table.register (declared.map (·.name))) declared fs →
      domainConstraints declared table = .ok (fs, table.register (declared.map (·.name)))
  | [], table, _, .nil => rfl
  | v :: rest, table, f :: fs, .cons made more => by
    obtain ⟨x, named, made⟩ := made
    -- the name keeps the variable it has when the constraint is made
    have registered := ((table.intern v.name).2.extends_register (rest.map (·.name))).name? (table.name?_intern v.name)
    have same : (table.intern v.name).1 = x := SymbolTable.name?_inj registered named
    have others : domainConstraints rest (table.intern v.name).2 =
        .ok (fs, (table.intern v.name).2.register (rest.map (·.name))) := domainConstraints_eq more
    simp only [domainConstraints, same, made, others]
    rfl

theorem exists_domainsIn : ∀ {declared : List Variable}, (∀ v ∈ declared, v.name ∈ table.names) →
    declared.findSome? (·.refusal?) = none → ∃ fs, DomainsIn table declared fs
  | [], _, _ => ⟨[], .nil⟩
  | v :: rest, known, accepted => by
    obtain ⟨first, others⟩ := List.forall_mem_cons.1 (List.findSome?_eq_none_iff.1 accepted)
    obtain ⟨knowsFirst, knowsOthers⟩ := List.forall_mem_cons.1 known
    obtain ⟨x, named⟩ := SymbolTable.exists_of_mem_names knowsFirst
    obtain ⟨fs, made⟩ := exists_domainsIn knowsOthers (List.findSome?_eq_none_iff.2 others)
    cases bounds : v.bounds with
    | error e =>
      rw [Variable.refusal?, bounds] at first
      cases first
    | ok range =>
      have constraint : ∃ f, v.constraint x = .ok f := by
        rw [Variable.constraint, bounds]
        exact ⟨_, rfl⟩
      obtain ⟨f, constraint⟩ := constraint
      exact ⟨f :: fs, .cons ⟨x, named, constraint⟩ made⟩

end Analyzer

/-! ## How a run may end -/

/-- The queries for an input that no guard covers: the guards compile, not all
of them to true, and the assertions are the constraints of the declarations and
then that none of the guards holds. -/
inductive Query.ForGap (mode : CompileMode) (limits : Limits) (guards : List Guard) (declared : List Variable) :
    Query → Prop where
  | asks {fs domains : List Formula} {table : SymbolTable}
      (compiled : Guard.compileList mode guards .empty = (.ok fs, table)) (proper : ∃ f ∈ fs, f ≠ .const true)
      (made : Analyzer.DomainsIn (table.register (declared.map (·.name))) declared domains) :
      ForGap mode limits guards declared
        ⟨table.register (declared.map (·.name)), domains ++ [(Formula.disj fs).neg], limits⟩

/-- The queries for an input on which two guards hold. -/
inductive Query.ForPair (mode : CompileMode) (limits : Limits) (g₁ g₂ : Guard) : Query → Prop where
  | asks {f₁ f₂ : Formula} {table : SymbolTable}
      (compiled : Guard.compileList mode [g₁, g₂] .empty = (.ok [f₁, f₂], table)) :
      ForPair mode limits g₁ g₂ ⟨table, [f₁, f₂], limits⟩

theorem Query.ForPair.of_compiled {mode : CompileMode} {limits : Limits} {g₁ g₂ : Guard} {fs : List Formula}
    {table : SymbolTable} (compiled : Guard.compileList mode [g₁, g₂] .empty = (.ok fs, table)) :
    ForPair mode limits g₁ g₂ ⟨table, fs, limits⟩ := by
  cases Guard.compileList_means compiled with
  | cons _ rest =>
    cases rest with
    | cons _ rest =>
      cases rest
      exact .asks compiled

/-- The verdict that a decision leads to. -/
def CompletenessVerdict.ofOutcome : Outcome → CompletenessVerdict
  | .sat w => .gap w
  | .unsat => .covered

/-- The verdict that a decision leads to. -/
def SatisfiabilityVerdict.ofOutcome : Outcome → SatisfiabilityVerdict
  | .sat w => .overlapping w
  | .unsat => .disjoint

section
variable (mode : CompileMode) (limits : Limits) (answer : Query → Except SolverError Outcome)

/-- How an analysis of a set of guards ends, and the queries it makes. -/
inductive CoverageRun (guards : List Guard) (declared : List Variable) :
    Except AnalysisError CompletenessVerdict → List Query → Prop where
  | rejected {e : ParseError} (first : guards.findSome? (·.rejection? mode) = some e) :
      CoverageRun guards declared (.error (.parse e)) []
  | trivial {fs : List Formula} {table : SymbolTable}
      (compiled : Guard.compileList mode guards .empty = (.ok fs, table)) (all : ∀ f ∈ fs, f = .const true) :
      CoverageRun guards declared (.ok .covered) []
  | malformed {fs : List Formula} {table : SymbolTable} {e : DomainError}
      (compiled : Guard.compileList mode guards .empty = (.ok fs, table)) (proper : ∃ f ∈ fs, f ≠ .const true)
      (first : declared.findSome? (·.refusal?) = some e) : CoverageRun guards declared (.error (.domain e)) []
  | undecided {q : Query} {e : SolverError} (asks : q.ForGap mode limits guards declared)
      (failed : answer q = .error e) : CoverageRun guards declared (.error (.solver e)) [q]
  | decided {q : Query} {outcome : Outcome} (asks : q.ForGap mode limits guards declared)
      (answered : answer q = .ok outcome) : CoverageRun guards declared (.ok (.ofOutcome outcome)) [q]

/-- How an analysis of two guards ends, and the queries it makes. -/
inductive PairRun (g₁ g₂ : Guard) : Except AnalysisError SatisfiabilityVerdict → List Query → Prop where
  | rejected {e : ParseError} (first : [g₁, g₂].findSome? (·.rejection? mode) = some e) :
      PairRun g₁ g₂ (.error (.parse e)) []
  | undecided {q : Query} {e : SolverError} (asks : q.ForPair mode limits g₁ g₂) (failed : answer q = .error e) :
      PairRun g₁ g₂ (.error (.solver e)) [q]
  | decided {q : Query} {outcome : Outcome} (asks : q.ForPair mode limits g₁ g₂) (answered : answer q = .ok outcome) :
      PairRun g₁ g₂ (.ok (.ofOutcome outcome)) [q]

end

/-- The verdict of an analysis, or the fallback for what went wrong. -/
def settle {α : Type} (fallback : String → α) : Except AnalysisError α → α
  | .ok verdict => verdict
  | .error e => fallback e.message

/-- Whether both forms of an operation make the queries, whatever was asked
before, the one to end with the result and the other with its verdict or the
fallback. -/
def EndsWith {α : Type} (tried : StateM (List Query) (Except AnalysisError α)) (checked : StateM (List Query) α)
    (fallback : String → α) (result : Except AnalysisError α) (queries : List Query) : Prop :=
  ∀ asked, tried.run asked = (result, asked ++ queries) ∧
    checked.run asked = (settle fallback result, asked ++ queries)

/-- The second form runs the first, and settles what comes of it. -/
theorem EndsWith.of_tried {α : Type} {tried : StateM (List Query) (Except AnalysisError α)}
    {next : Except AnalysisError α → StateM (List Query) α} {fallback : String → α} {result : Except AnalysisError α}
    {queries : List Query} (settles : ∀ result, next result = pure (settle fallback result))
    (h : ∀ asked, tried.run asked = (result, asked ++ queries)) :
    EndsWith tried (tried >>= next) fallback result queries := by
  intro asked
  refine ⟨h asked, ?_⟩
  rw [StateT.run_bind, h asked]
  show (next result).run (asked ++ queries) = _
  rw [settles]
  rfl

namespace Analyzer

/-- The analyzer whose backend answers by the function. -/
def noting (config : Config) (answer : Query → Except SolverError Outcome) : Analyzer (StateM (List Query)) :=
  ⟨config, .noting answer⟩

variable {config : Config} {answer : Query → Except SolverError Outcome} {guards : List Guard}
variable {declared : List Variable} {g₁ g₂ : Guard} {queries asked : List Query}

theorem not_all_isTrue_iff {fs : List Formula} : ¬fs.all (·.isTrue) = true ↔ ∃ f ∈ fs, f ≠ .const true := by
  simp [← Formula.isTrue_iff]

/-- The query about a set of guards, and what its answer leads to. -/
theorem tryCheckComplete_asks {q : Query} (asks : q.ForGap (noting config answer).mode config.limits guards declared) :
    ((noting config answer).tryCheckComplete guards declared).run asked =
      (match answer q with
        | .error e => .error (.solver e)
        | .ok outcome => .ok (.ofOutcome outcome), asked ++ [q]) := by
  obtain ⟨compiled, proper, made⟩ := asks
  simp only [tryCheckComplete, compiled, domainConstraints_eq made]
  rw [if_neg (not_all_isTrue_iff.2 proper), StateT.run_bind, noting, Backend.run_noting answer ⟨_, _, _⟩]
  cases answer _ with
  | error e => rfl
  | ok outcome => cases outcome <;> rfl

theorem tryCheckPair_asks {q : Query} (asks : q.ForPair (noting config answer).mode config.limits g₁ g₂) :
    ((noting config answer).tryCheckPair g₁ g₂).run asked =
      (match answer q with
        | .error e => .error (.solver e)
        | .ok outcome => .ok (.ofOutcome outcome), asked ++ [q]) := by
  obtain ⟨compiled⟩ := asks
  simp only [tryCheckPair, compiled]
  rw [StateT.run_bind, noting, Backend.run_noting answer ⟨_, _, _⟩]
  cases answer _ with
  | error e => rfl
  | ok outcome => cases outcome <;> rfl

theorem coverageRun_endsWith {result : Except AnalysisError CompletenessVerdict} {a : Analyzer (StateM (List Query))}
    (same : a = noting config answer)
    (h : CoverageRun a.mode a.config.limits answer guards declared result queries) :
    EndsWith (a.tryCheckComplete guards declared) (a.checkComplete guards declared) .fallback result queries := by
  subst same
  rw [checkComplete]
  refine EndsWith.of_tried (fun result => by cases result <;> rfl) fun asked => ?_
  cases h with
  | rejected first =>
    rw [tryCheckComplete_rejected first, List.append_nil]
    rfl
  | trivial compiled all =>
    have isTrue : _ = true := List.all_eq_true.2 fun f hf => Formula.isTrue_iff.2 (all f hf)
    simp only [tryCheckComplete, compiled]
    rw [if_pos isTrue, List.append_nil]
    rfl
  | malformed compiled proper first =>
    simp only [tryCheckComplete, compiled, domainConstraints_refused _ first]
    rw [if_neg (not_all_isTrue_iff.2 proper), List.append_nil]
    rfl
  | undecided asks failed => rw [tryCheckComplete_asks asks, failed]
  | decided asks answered => rw [tryCheckComplete_asks asks, answered]

theorem pairRun_endsWith {result : Except AnalysisError SatisfiabilityVerdict} {a : Analyzer (StateM (List Query))}
    (same : a = noting config answer) (h : PairRun a.mode a.config.limits answer g₁ g₂ result queries) :
    EndsWith (a.tryCheckPair g₁ g₂) (a.checkPair g₁ g₂) .fallback result queries := by
  subst same
  rw [checkPair]
  refine EndsWith.of_tried (fun result => by cases result <;> rfl) fun asked => ?_
  cases h with
  | rejected first =>
    rw [tryCheckPair_rejected first, List.append_nil]
    rfl
  | undecided asks failed => rw [tryCheckPair_asks asks, failed]
  | decided asks answered => rw [tryCheckPair_asks asks, answered]

theorem exists_coverageRun (mode : CompileMode) (limits : Limits) (answer : Query → Except SolverError Outcome)
    (guards : List Guard) (declared : List Variable) :
    ∃ result queries, CoverageRun mode limits answer guards declared result queries := by
  -- in the order of the checks: rejected guards, guards that always hold, declarations, the query
  cases first : guards.findSome? (·.rejection? mode) with
  | some e => exact ⟨_, _, .rejected first⟩
  | none =>
    obtain ⟨fs, table, compiled⟩ := Guard.compileList_accepted first .empty
    by_cases all : ∀ f ∈ fs, f = .const true
    · exact ⟨_, _, .trivial compiled all⟩
    · have proper : ∃ f ∈ fs, f ≠ .const true := by
        simpa using all
      cases refused : declared.findSome? (·.refusal?) with
      | some e => exact ⟨_, _, .malformed compiled proper refused⟩
      | none =>
        have known : ∀ v ∈ declared, v.name ∈ (table.register (declared.map (·.name))).names := by
          intro v hv
          exact table.mem_names_register (List.mem_map_of_mem hv)
        obtain ⟨domains, made⟩ := exists_domainsIn known refused
        obtain ⟨q, asks⟩ : ∃ q, Query.ForGap mode limits guards declared q := ⟨_, .asks compiled proper made⟩
        cases answered : answer q with
        | error e => exact ⟨_, _, .undecided asks answered⟩
        | ok outcome => exact ⟨_, _, .decided asks answered⟩

theorem exists_pairRun (mode : CompileMode) (limits : Limits) (answer : Query → Except SolverError Outcome)
    (g₁ g₂ : Guard) : ∃ result queries, PairRun mode limits answer g₁ g₂ result queries := by
  cases first : [g₁, g₂].findSome? (·.rejection? mode) with
  | some e => exact ⟨_, _, .rejected first⟩
  | none =>
    obtain ⟨fs, table, compiled⟩ := Guard.compileList_accepted first .empty
    obtain ⟨q, asks⟩ : ∃ q, Query.ForPair mode limits g₁ g₂ q := ⟨_, .of_compiled compiled⟩
    cases answered : answer q with
    | error e => exact ⟨_, _, .undecided asks answered⟩
    | ok outcome => exact ⟨_, _, .decided asks answered⟩

/-- Analyses fail, come to an early end and ask the backend in a fixed order,
whatever it answers, and fall back on the verdict that raises no alarm. -/
theorem analyses_in_order (config : Config) (answer : Query → Except SolverError Outcome) (guards : List Guard)
    (declared : List Variable) (g₁ g₂ : Guard) :
    let a := noting config answer
    (∃ result queries, CoverageRun a.mode config.limits answer guards declared result queries) ∧
    (∀ result queries, CoverageRun a.mode config.limits answer guards declared result queries →
      EndsWith (a.tryCheckComplete guards declared) (a.checkComplete guards declared)
        (fun message => ⟨true, none, some message⟩) result queries) ∧
    (∀ v queries, CoverageRun a.mode config.limits answer guards declared (.ok v) queries → v.error = none) ∧
    (∃ result queries, PairRun a.mode config.limits answer g₁ g₂ result queries) ∧
    (∀ result queries, PairRun a.mode config.limits answer g₁ g₂ result queries →
      EndsWith (a.tryCheckPair g₁ g₂) (a.checkPair g₁ g₂) (fun message => ⟨false, none, some message⟩) result queries) ∧
    (∀ v queries, PairRun a.mode config.limits answer g₁ g₂ (.ok v) queries → v.error = none) := by
  refine ⟨exists_coverageRun _ _ _ _ _, fun _ _ => coverageRun_endsWith rfl, ?_,
    exists_pairRun _ _ _ _ _, fun _ _ => pairRun_endsWith rfl, ?_⟩
  · intro v queries h
    cases h with
    | trivial => rfl
    | @decided _ outcome => cases outcome <;> rfl
  · intro v queries h
    cases h with
    | @decided _ outcome => cases outcome <;> rfl

/-- Declarations of which the last two leave no value. -/
def inverted : List Variable := [.ofBool "b", .ofInt "n" (some 1) (some 0), .ofEnum "e" []]

/-- They do not matter to guards that always hold. To others the first of them
does. Of two guards at once the backend is asked even if they always hold. -/
theorem analyses_in_order_inverted :
    let a := noting .default fun _ => .ok .unsat
    (a.checkComplete [.alwaysTrue] inverted).run [] = (.covered, []) ∧
    (a.checkComplete [.protocol [.of "n" .gt (.integer 3)]] inverted).run [] =
      (.fallback (DomainError.invertedBounds "n" 1 0).message, []) ∧
    (a.checkPair .alwaysTrue .alwaysTrue).run [] =
      (.disjoint, [⟨.empty, [.const true, .const true], Config.default.limits⟩]) := by
  have always := analyses_in_order .default (fun _ => .ok .unsat) [.alwaysTrue] inverted .alwaysTrue .alwaysTrue
  have sometimes := analyses_in_order .default (fun _ => .ok .unsat) [.protocol [.of "n" .gt (.integer 3)]] inverted
    .alwaysTrue .alwaysTrue
  refine ⟨?_, ?_, ?_⟩
  · exact (always.2.1 _ _ (.trivial rfl (by simp)) []).2
  · exact (sometimes.2.1 _ _ (.malformed rfl ⟨_, List.mem_cons_self .., nofun⟩ rfl) []).2
  · exact (always.2.2.2.2.1 _ _ (.decided (.asks rfl) rfl) []).2

end Analyzer

end TransitionGuards
