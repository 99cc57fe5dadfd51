import TransitionGuards.Analyzer
import TransitionGuards.Machine.EdgeGuard
import TransitionGuards.Machine.Group
import TransitionGuards.Machine.Reachability

/-
  The analysis of a whole machine: groups in which two transitions are possible
  at once, groups in which no transition may be possible, states without a way
  out and states without a way in.
-/

namespace TransitionGuards

/-- Two transitions of one group whose guards overlap. -/
structure DeterminismIssue where
  state : String
  event : String
  targets : List String
  guard₁ : Guard
  guard₂ : Guard
  counterExample : Option String
  deriving Inhabited

/-- A group that leaves some inputs without a transition. -/
structure CompletenessIssue where
  state : String
  event : String
  gapModel : Option String
  deriving DecidableEq, Inhabited

/-- What was found in a machine. -/
structure Report where
  determinism : List DeterminismIssue
  completeness : List CompletenessIssue
  deadStates : List StateRef
  unreachableStates : List StateRef
  deriving Inhabited

/-- Two transitions that are possible at once, with the text of a witness. -/
structure Overlap where
  first : Edge
  second : Edge
  model : Option String

/-- The two questions that the analysis of a machine puts about guards. -/
structure Checks (m : Type → Type) where
  pair : Guard → Guard → m SatisfiabilityVerdict
  complete : List Guard → List Variable → m CompletenessVerdict

variable {m : Type → Type} [Monad m]

namespace Checks

/-- The first of `others` whose guard overlaps with that of `e`. -/
def overlapWith (c : Checks m) (e : Edge) : List Edge → m (Option Overlap)
  | [] => pure none
  | other :: rest => do
    let verdict ← c.pair e.guard other.guard
    if verdict.satisfiable then pure (some ⟨e, other, verdict.model⟩) else c.overlapWith e rest

/-- The first pair of transitions whose guards overlap, the first member of the
pair counting first. -/
def firstOverlap (c : Checks m) : List Edge → m (Option Overlap)
  | [] => pure none
  | e :: rest => do
    match ← c.overlapWith e rest with
    | some overlap => pure (some overlap)
    | none => c.firstOverlap rest

/-- The issues of the groups in order, at most one for each. -/
def eachGroup {ι : Type} (check : Group → m (Option ι)) : List Group → m (List ι)
  | [] => pure []
  | g :: rest => do
    let issue ← check g
    let issues ← eachGroup check rest
    pure (issue.toList ++ issues)

/-- The first overlap in the group. -/
def groupDeterminism (c : Checks m) (g : Group) : m (Option DeterminismIssue) := do
  let overlap ← c.firstOverlap g.edges
  pure (overlap.map fun o =>
    ⟨g.source, eventLabel g.event, [o.first.target, o.second.target], o.first.guard, o.second.guard, o.model⟩)

/-- The groups in which two transitions are possible at once. -/
def determinism (c : Checks m) (edges : List Edge) : m (List DeterminismIssue) :=
  eachGroup c.groupDeterminism (groups edges)

/-- The gap that the group leaves. -/
def groupCompleteness (c : Checks m) (declared : List Variable) (g : Group) : m (Option CompletenessIssue) := do
  let verdict ← c.complete (g.edges.map (·.guard)) declared
  pure (if verdict.complete then none else some ⟨g.source, eventLabel g.event, verdict.gapModel⟩)

/-- The groups that leave some inputs without a transition. -/
def completeness (c : Checks m) (edges : List Edge) (declared : List Variable) : m (List CompletenessIssue) :=
  eachGroup (c.groupCompleteness declared) (groups edges)

/-- The analysis of a machine. -/
def analyze (c : Checks m) (machine : Machine) : m Report := do
  let determinism ← c.determinism machine.edges
  let completeness ← c.completeness machine.edges machine.declared
  pure ⟨determinism, completeness, deadStates machine.nodes machine.edges,
    unreachableStates machine.nodes machine.edges⟩

end Checks

namespace Analyzer

/-- The questions as the analyzer answers them. -/
def checks (a : Analyzer m) : Checks m := ⟨a.checkPair, a.checkComplete⟩

/-- The groups in which the analyzer finds two transitions possible at once. -/
def checkDeterminism (a : Analyzer m) (edges : List Edge) : m (List DeterminismIssue) := a.checks.determinism edges

/-- The groups in which the analyzer finds a gap. -/
def checkCompleteness (a : Analyzer m) (edges : List Edge) (declared : List Variable) : m (List CompletenessIssue) :=
  a.checks.completeness edges declared

/-- The analyzer's report on a machine. -/
def analyze (a : Analyzer m) (machine : Machine) : m Report := a.checks.analyze machine

end Analyzer

end TransitionGuards
