import TransitionGuards.Config
import TransitionGuards.Guard.Compile
import TransitionGuards.Variable
import TransitionGuards.Verdict

/-
  The two questions about guards: can two of them hold at once, and does a set
  of them cover every input?

  Each question compiles the guards against a fresh symbol table and asks the
  backend at most once. The `try` forms say why there is no answer; the others
  turn that into a fallback verdict.
-/

namespace TransitionGuards

/-- Why a question was not answered. -/
inductive AnalysisError where
  | parse (e : ParseError)
  | domain (e : DomainError)
  | solver (e : SolverError)
  deriving DecidableEq, Inhabited

def AnalysisError.message : AnalysisError → String
  | .parse e => e.message
  | .domain e => e.message
  | .solver e => e.message

/-- Settings together with the backend that decides the queries. -/
structure Analyzer (m : Type → Type) where
  config : Config
  backend : Backend m

namespace Analyzer

variable {m : Type → Type} [Monad m]

def ofConfig (clock : Clock) (config : Config) : Analyzer m := ⟨config, config.backend.instantiate clock⟩

def default (clock : Clock) : Analyzer m := ofConfig clock .default

def mode (a : Analyzer m) : CompileMode := ⟨a.config.precedence, a.config.strict⟩

/-! ## Two guards at once -/

/-- The verdict on two guards, or why there is none. -/
def tryCheckPair (a : Analyzer m) (guard₁ guard₂ : Guard) : m (Except AnalysisError SatisfiabilityVerdict) :=
  match Guard.compileList a.mode [guard₁, guard₂] .empty with
  | (.error e, _) => pure (.error (.parse e))
  | (.ok formulas, table) => do
    match ← a.backend.check table formulas a.config.limits with
    | .error e => pure (.error (.solver e))
    | .ok (.sat w) => pure (.ok (.overlapping w))
    | .ok .unsat => pure (.ok .disjoint)

/-- The verdict on two guards. -/
def checkPair (a : Analyzer m) (guard₁ guard₂ : Guard) : m SatisfiabilityVerdict := do
  match ← a.tryCheckPair guard₁ guard₂ with
  | .ok verdict => pure verdict
  | .error e => pure (.fallback e.message)

/-! ## Covering every input -/

/-- The constraints of the declared variables, in order, up to the first
declaration that leaves no value. -/
def domainConstraints : List Variable → SymbolTable → Except DomainError (List Formula × SymbolTable)
  | [], table => .ok ([], table)
  | v :: rest, table =>
    let (x, table) := table.intern v.name
    match v.constraint x with
    | .error e => .error e
    | .ok f =>
      match domainConstraints rest table with
      | .error e => .error e
      | .ok (fs, table) => .ok (f :: fs, table)

/-- The verdict on a set of guards, or why there is none. Guards that all
compile to `true` are complete whatever the variables are. -/
def tryCheckComplete (a : Analyzer m) (guards : List Guard) (declared : List Variable) :
    m (Except AnalysisError CompletenessVerdict) :=
  match Guard.compileList a.mode guards .empty with
  | (.error e, _) => pure (.error (.parse e))
  | (.ok formulas, table) =>
    if formulas.all (·.isTrue) then pure (.ok .covered)
    else match domainConstraints declared table with
      | .error e => pure (.error (.domain e))
      | .ok (domains, table) => do
        match ← a.backend.check table (domains ++ [(Formula.disj formulas).neg]) a.config.limits with
        | .error e => pure (.error (.solver e))
        | .ok (.sat w) => pure (.ok (.gap w))
        | .ok .unsat => pure (.ok .covered)

/-- The verdict on a set of guards. -/
def checkComplete (a : Analyzer m) (guards : List Guard) (declared : List Variable) : m CompletenessVerdict := do
  match ← a.tryCheckComplete guards declared with
  | .ok verdict => pure verdict
  | .error e => pure (.fallback e.message)

end Analyzer

end TransitionGuards
