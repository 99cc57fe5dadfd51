import TransitionGuards.Proofs.LimitedRuns
import TransitionGuards.Proofs.QueryRun
import TransitionGuards.Proofs.Strictness

/-
  Analyses without limits.

  Every query is decided then, so an analysis can fall back only on what it is
  given: a guard that strictness rejects, or a declaration that leaves no value.
  What it finds is up to the rejections and the meanings of the guards
  (`satisfiable_iff_of_unlimited`, `incomplete_iff_of_unlimited`). The clocks have
  no part in it: `Settles` says so of a run, and it is kept by `pure` and `bind`,
  so it follows the text of a program up to the report on a machine
  (`settles_analyze`).
-/

namespace TransitionGuards

/-- Whether none of the guards is rejected. -/
def Guard.AllAccepted (mode : CompileMode) (guards : List Guard) : Prop := ∀ g ∈ guards, g.rejection? mode = none

/-- Without limits the clock does not change an answer. -/
theorem decideAll_clock (clock clock' : Clock) (table : SymbolTable) (assertions : List Formula) :
    decideAll clock table assertions .unbounded = decideAll clock' table assertions .unbounded := by
  obtain ⟨n, answer, _, eq⟩ := decideAll_makes table assertions
  rw [eq, eq, Limits.grant, Limits.grant, refusal_unbounded, refusal_unbounded]

theorem Variable.exists_bounds {v : Variable} {value : Int64} (h : v.admits value = true) :
    ∃ range, v.bounds = .ok range := by
  rw [admits] at h
  split at h
  · cases h
  · next min max bounds => exact ⟨(min, max), bounds⟩

/-! ## Accepted guards -/

namespace Analyzer

section
variable {g₁ g₂ : Guard} {guards : List Guard} {declared : List Variable}

/-- A strict run on guards that are accepted is the lenient one. -/
theorem Refines.eq_of_accepted {m : Type → Type} [Monad m] {α : Type} {precedence : Precedence} {fallback : String → α}
    {strict lenient : m α} (h : Refines precedence guards fallback strict lenient)
    (accepted : Guard.AllAccepted ⟨precedence, true⟩ guards) : strict = lenient := by
  refine h.resolve_right fun rejected => ?_
  obtain ⟨g, hg, e, fault, _⟩ := rejected
  rw [← Guard.rejection?_strict, accepted g hg] at fault
  cases fault

theorem checkPair_of_accepted {a : Analyzer Id} (accepted : Guard.AllAccepted a.mode [g₁, g₂]) :
    a.checkPair g₁ g₂ = (a.withStrict false).checkPair g₁ g₂ := by
  obtain ⟨⟨kind, precedence, strict, timeout, budget⟩, backend⟩ := a
  cases strict with
  | false => rfl
  | true => exact (checkPair_refines _ g₁ g₂).eq_of_accepted accepted

theorem checkComplete_of_accepted {a : Analyzer Id} (accepted : Guard.AllAccepted a.mode guards) :
    a.checkComplete guards declared = (a.withStrict false).checkComplete guards declared := by
  obtain ⟨⟨kind, precedence, strict, timeout, budget⟩, backend⟩ := a
  cases strict with
  | false => rfl
  | true => exact (checkComplete_refines _ guards declared).eq_of_accepted accepted

theorem exists_of_not_accepted {mode : CompileMode} (h : ¬Guard.AllAccepted mode guards) :
    ∃ e, guards.findSome? (·.rejection? mode) = some e := by
  rw [Guard.AllAccepted, ← List.findSome?_eq_none_iff] at h
  exact Option.ne_none_iff_exists'.1 h

theorem checkPair_of_rejected {a : Analyzer Id} (rejected : ¬Guard.AllAccepted a.mode [g₁, g₂]) :
    ∃ message, (a.checkPair g₁ g₂).run = .fallback message := by
  obtain ⟨e, first⟩ := exists_of_not_accepted rejected
  rw [checkPair, tryCheckPair_rejected first]
  exact ⟨_, rfl⟩

theorem checkComplete_of_rejected {a : Analyzer Id} (rejected : ¬Guard.AllAccepted a.mode guards) :
    ∃ message, (a.checkComplete guards declared).run = .fallback message := by
  obtain ⟨e, first⟩ := exists_of_not_accepted rejected
  rw [checkComplete, tryCheckComplete_rejected first]
  exact ⟨_, rfl⟩

end

/-! ## Verdicts -/

section
variable {config : Config} {clock : Clock} {g₁ g₂ : Guard} {guards : List Guard} {declared : List Variable}
variable (noTimeout : config.timeoutMs = none) (noBudget : config.maxDecisions = none)
include noTimeout noBudget

/-- The verdict on two guards is a fallback exactly if one of them is
rejected. -/
theorem answered_iff_of_unlimited : ((builtin config clock).checkPair g₁ g₂).run.error = none ↔
    Guard.AllAccepted (builtin config clock).mode [g₁, g₂] := by
  constructor
  · intro answered
    by_contra rejected
    obtain ⟨message, fallback⟩ := checkPair_of_rejected rejected
    rw [fallback] at answered
    cases answered
  · intro accepted
    have lenient : { config with strict := false }.strict = false := rfl
    rw [checkPair_of_accepted accepted]
    exact checkPair_answered lenient noTimeout noBudget

theorem satisfiable_iff_of_unlimited : ((builtin config clock).checkPair g₁ g₂).run.satisfiable = true ↔
    Guard.AllAccepted (builtin config clock).mode [g₁, g₂] ∧ ∃ σ, Guard.BothHold config.precedence g₁ g₂ σ := by
  by_cases accepted : Guard.AllAccepted (builtin config clock).mode [g₁, g₂]
  · have answered := (answered_iff_of_unlimited noTimeout noBudget).2 accepted
    rw [satisfiable_iff answered]
    exact ⟨fun overlap => ⟨accepted, overlap⟩, And.right⟩
  · obtain ⟨message, fallback⟩ := checkPair_of_rejected accepted
    rw [fallback]
    exact ⟨nofun, fun h => absurd h.1 accepted⟩

/-- Guards are found incomplete exactly if none is rejected and they leave a
gap. -/
theorem incomplete_iff_of_unlimited (nonempty : guards ≠ []) :
    ((builtin config clock).checkComplete guards declared).run.complete = false ↔
      Guard.AllAccepted (builtin config clock).mode guards ∧ ∃ σ, IsGap config.precedence guards declared σ := by
  by_cases accepted : Guard.AllAccepted (builtin config clock).mode guards
  · have lenient : { config with strict := false }.strict = false := rfl
    have right := checkComplete_right { config with strict := false } clock guards declared
    rw [checkComplete_of_accepted accepted]
    constructor
    · intro incomplete
      obtain ⟨_, _, _, attests⟩ := right.witnessed incomplete
      exact ⟨accepted, attests.possible⟩
    · intro h
      obtain ⟨_, σ, gap⟩ := h
      -- no declaration can be at fault, for `σ` is within the bounds of each
      have valid : ∀ v ∈ declared, ∃ range, v.bounds = .ok range := fun v hv => Variable.exists_bounds (gap.1 v hv)
      exact (incomplete_iff nonempty (checkComplete_answered lenient noTimeout noBudget valid)).2 ⟨σ, gap⟩
  · obtain ⟨message, fallback⟩ := checkComplete_of_rejected accepted
    rw [fallback]
    exact ⟨nofun, fun h => absurd h.1 accepted⟩

end

end Analyzer

/-! ## Runs that the clocks do not change -/

/-- Whether the run returns what the other one does, whatever the clocks. -/
def Settles {α : Type} (x : StateM Clocks α) (y : Id α) : Prop := ∀ clocks, (x.run clocks).1 = y.run

namespace Settles
variable {α β : Type} {x : StateM Clocks α} {y : Id α}

theorem done (a : α) : Settles (pure a) (pure a) := fun _ => rfl

theorem andThen {f : α → StateM Clocks β} {g : α → Id β} (hx : Settles x y) (hf : ∀ a, Settles (f a) (g a)) :
    Settles (x >>= f) (y >>= g) := by
  intro clocks
  rw [StateT.run_bind, Id.run_bind, ← hx clocks]
  exact hf _ _

end Settles

/-- Whether both questions are answered alike, whatever the clocks. -/
structure Checks.Settle (c : Checks (StateM Clocks)) (d : Checks Id) : Prop where
  pair : ∀ g₁ g₂, Settles (c.pair g₁ g₂) (d.pair g₁ g₂)
  complete : ∀ guards declared, Settles (c.complete guards declared) (d.complete guards declared)

theorem settles_eachGroup {ι : Type} {check : Group → StateM Clocks (Option ι)} {check' : Group → Id (Option ι)}
    (each : ∀ g, Settles (check g) (check' g)) : ∀ gs : List Group,
      Settles (Checks.eachGroup check gs) (Checks.eachGroup check' gs)
  | [] => .done []
  | g :: rest => by
    rw [Checks.eachGroup, Checks.eachGroup]
    exact (each g).andThen fun _ => (settles_eachGroup each rest).andThen fun _ => .done _

section
variable {c : Checks (StateM Clocks)} {d : Checks Id} (h : c.Settle d)
include h

theorem settles_overlapWith (e : Edge) : ∀ others : List Edge, Settles (c.overlapWith e others) (d.overlapWith e others)
  | [] => .done none
  | other :: rest => by
    rw [Checks.overlapWith, Checks.overlapWith]
    refine (h.pair e.guard other.guard).andThen fun verdict => ?_
    cases verdict.satisfiable with
    | true => exact .done _
    | false => exact settles_overlapWith e rest

theorem settles_firstOverlap : ∀ edges : List Edge, Settles (c.firstOverlap edges) (d.firstOverlap edges)
  | [] => .done none
  | e :: rest => by
    rw [Checks.firstOverlap, Checks.firstOverlap]
    refine (settles_overlapWith h e rest).andThen fun overlap => ?_
    cases overlap with
    | some overlap => exact .done _
    | none => exact settles_firstOverlap rest

theorem settles_groupDeterminism (g : Group) : Settles (c.groupDeterminism g) (d.groupDeterminism g) := by
  rw [Checks.groupDeterminism, Checks.groupDeterminism]
  exact (settles_firstOverlap h g.edges).andThen fun _ => .done _

theorem settles_groupCompleteness (declared : List Variable) (g : Group) :
    Settles (c.groupCompleteness declared g) (d.groupCompleteness declared g) := by
  rw [Checks.groupCompleteness, Checks.groupCompleteness]
  exact (h.complete _ declared).andThen fun _ => .done _

/-- Whatever a query does with its clock, a report is made of the verdicts. -/
theorem settles_report (machine : Machine) : Settles (c.analyze machine) (d.analyze machine) := by
  rw [Checks.analyze, Checks.analyze]
  refine (settles_eachGroup (settles_groupDeterminism h) (groups machine.edges)).andThen fun determinism => ?_
  refine (settles_eachGroup (settles_groupCompleteness h machine.declared) (groups machine.edges)).andThen ?_
  exact fun completeness => .done _

end

namespace Analyzer

section
variable {config : Config} (noTimeout : config.timeoutMs = none) (noBudget : config.maxDecisions = none) (clock : Clock)
include noTimeout noBudget

theorem settles_checkPair (g₁ g₂ : Guard) :
    Settles ((timed config).checkPair g₁ g₂) ((builtin config clock).checkPair g₁ g₂) := by
  intro clocks
  rw [timed_checkPair, builtin, builtin, checkPair_eq, checkPair_eq, Config.limits_eq_unbounded noTimeout noBudget]
  simp only [decideAll_clock (clocks 0) clock, pure_bind]

theorem settles_checkComplete (guards : List Guard) (declared : List Variable) :
    Settles ((timed config).checkComplete guards declared) ((builtin config clock).checkComplete guards declared) := by
  intro clocks
  rw [timed_checkComplete, builtin, builtin, checkComplete_eq, checkComplete_eq,
    Config.limits_eq_unbounded noTimeout noBudget]
  simp only [decideAll_clock (clocks 0) clock, pure_bind]

/-- Without limits a report on a machine does not depend on the clocks. -/
theorem settles_analyze (machine : Machine) :
    Settles ((timed config).analyze machine) ((builtin config clock).analyze machine) :=
  settles_report ⟨settles_checkPair noTimeout noBudget clock, settles_checkComplete noTimeout noBudget clock⟩ machine

end

end Analyzer

end TransitionGuards
