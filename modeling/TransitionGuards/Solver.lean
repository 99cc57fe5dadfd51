import TransitionGuards.Duration
import TransitionGuards.SymbolTable
import TransitionGuards.Witness

/-
  What a decision procedure for constraints is asked and what it may answer.
  A backend decides whether assertions can hold together; the answers are a
  witness, "unsatisfiable", or the reason why there is no decision.
-/

namespace TransitionGuards

/-- Bounds on the work for one query. `none` leaves that side unbounded. -/
structure Limits where
  timeout : Option Duration
  maxDecisions : Option Nat
  deriving DecidableEq, Inhabited

def Limits.unbounded : Limits := ⟨none, none⟩

/-- Why a query was not decided. -/
inductive SolverError where
  | unavailable (backend reason : String)
  | timeout (after : Duration)
  | budgetExhausted (decisions : Nat)
  | unknown (reason : String)
  | backend (reason : String)
  deriving DecidableEq, Inhabited

def SolverError.message : SolverError → String
  | .unavailable name reason => "solver backend '" ++ name ++ "' is not available: " ++ reason
  | .timeout after => "solver timed out after " ++ after.text
  | .budgetExhausted n => "solver gave up after " ++ decimalText n ++ " decisions"
  | .unknown reason => "solver returned unknown: " ++ reason
  | .backend reason => "solver backend error: " ++ reason

/-- The decision of a query. -/
inductive Outcome where
  | sat (witness : Witness)
  | unsat
  deriving DecidableEq, Inhabited

/-- A decision procedure for conjunctions of formulas, in a monad `m` that
carries whatever else it does. -/
structure Backend (m : Type → Type) where
  name : String
  check : SymbolTable → List Formula → Limits → m (Except SolverError Outcome)

def Backend.declining {m : Type → Type} [Monad m] (name reason : String) : Backend m where
  name := name
  check _ _ _ := pure (.error (.unavailable name reason))

end TransitionGuards
