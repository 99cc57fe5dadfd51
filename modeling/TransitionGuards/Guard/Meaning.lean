import TransitionGuards.Expression.Reader
import TransitionGuards.Guard.Code

/-
  What a guard says about values of named variables, read off its conditions
  or its text, without formulas and symbol tables.
-/

namespace TransitionGuards

/-- A value for every variable name. -/
abbrev Valuation := String → Int64

def Comparison.holds (σ : Valuation) (c : Comparison) : Bool := c.comparator.holds (σ c.name) c.value

def FieldCondition.holds (σ : Valuation) (c : FieldCondition) : Bool :=
  c.comparator.holds (σ c.variableName) c.code

mutual

/-- Whether the expression holds. Text that could not be read constrains
nothing. -/
def Expression.holds (σ : Valuation) : Expression → Bool
  | .empty => true
  | .compare c => c.holds σ
  | .all parts => Expression.holdsAll σ parts
  | .any parts => Expression.holdsAny σ parts
  | .unparsed .. => true

def Expression.holdsAll (σ : Valuation) : List Expression → Bool
  | [] => true
  | e :: rest => Expression.holds σ e && Expression.holdsAll σ rest

def Expression.holdsAny (σ : Valuation) : List Expression → Bool
  | [] => false
  | e :: rest => Expression.holds σ e || Expression.holdsAny σ rest

end

/-- Whether the guard holds, its text read under the given precedence. -/
def Guard.holds (precedence : Precedence) (σ : Valuation) : Guard → Bool
  | .protocol conditions => conditions.all (·.holds σ)
  | .manual text => (Expression.parse precedence text).holds σ
  | .alwaysTrue => true

end TransitionGuards
