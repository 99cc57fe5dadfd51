import TransitionGuards.Comparator
import TransitionGuards.Text.Decimal

/-
  Constraints over integer variables: a tree of conjunctions, disjunctions and
  negations over comparisons of one variable with one constant.

  `conj`, `disj` and `neg` build formulas and fold them on the way: constants
  disappear, a conjunction among the parts of a conjunction is spliced into
  it, a double negation cancels. A guard that constrains nothing therefore
  becomes exactly `.const true`. `assign` puts a value in for a variable and
  folds again; `eval` computes the truth value under a partial assignment.
-/

namespace TransitionGuards

/-- A variable, known by its place in a symbol table. -/
structure VarId where
  index : Nat
  deriving DecidableEq, Repr, Inhabited

/-- The comparison of a variable with a constant. -/
structure Atom where
  var : VarId
  comparator : Comparator
  value : Int64
  deriving DecidableEq, Inhabited

/-- A constraint over integer variables. -/
inductive Formula where
  | const (value : Bool)
  | atom (a : Atom)
  | not (f : Formula)
  | and (parts : List Formula)
  | or (parts : List Formula)
  deriving Inhabited

namespace Formula

/-- The comparison of a variable with a constant, as a formula. -/
def compare (x : VarId) (c : Comparator) (value : Int64) : Formula := .atom ⟨x, c, value⟩

def isTrue : Formula → Bool
  | .const true => true
  | _ => false

def isFalse : Formula → Bool
  | .const false => true
  | _ => false

/-! ## Building with folding -/

/-- The parts of a conjunction once constants are folded and conjunctions
spliced in; `none` if one of them is false. -/
def conjuncts : List Formula → Option (List Formula)
  | [] => some []
  | .const true :: rest => conjuncts rest
  | .const false :: _ => none
  | .and inner :: rest => (conjuncts rest).map (inner ++ ·)
  | f :: rest => (conjuncts rest).map (f :: ·)

/-- The conjunction of the parts, folded. No parts at all make `true`. -/
def conj (parts : List Formula) : Formula :=
  match conjuncts parts with
  | none => .const false
  | some [] => .const true
  | some [f] => f
  | some fs => .and fs

/-- The parts of a disjunction once constants are folded and disjunctions
spliced in; `none` if one of them is true. -/
def disjuncts : List Formula → Option (List Formula)
  | [] => some []
  | .const false :: rest => disjuncts rest
  | .const true :: _ => none
  | .or inner :: rest => (disjuncts rest).map (inner ++ ·)
  | f :: rest => (disjuncts rest).map (f :: ·)

/-- The disjunction of the parts, folded. No parts at all make `false`. -/
def disj (parts : List Formula) : Formula :=
  match disjuncts parts with
  | none => .const true
  | some [] => .const false
  | some [f] => f
  | some fs => .or fs

/-- The negation, folded: a constant flips and a double negation cancels. -/
def neg : Formula → Formula
  | .const b => .const (!b)
  | .not f => f
  | f => .not f

/-! ## Assignment and evaluation -/

mutual

/-- The formula with `v` put in for `x`, folded. -/
def assign (x : VarId) (v : Int64) : Formula → Formula
  | .const b => .const b
  | .atom a => if a.var = x then .const (a.comparator.holds v a.value) else .atom a
  | .not f => neg (assign x v f)
  | .and parts => conj (assignAll x v parts)
  | .or parts => disj (assignAll x v parts)

def assignAll (x : VarId) (v : Int64) : List Formula → List Formula
  | [] => []
  | f :: rest => assign x v f :: assignAll x v rest

end

mutual

/-- The truth value where every variable met has a value, `none` otherwise.
A part that settles the value does not end the walk over the others. -/
def eval (value : VarId → Option Int64) : Formula → Option Bool
  | .const b => some b
  | .atom a => (value a.var).map fun v => a.comparator.holds v a.value
  | .not f => (eval value f).map (!·)
  | .and parts => evalAll value parts
  | .or parts => evalAny value parts

def evalAll (value : VarId → Option Int64) : List Formula → Option Bool
  | [] => some true
  | f :: rest => (eval value f).bind fun b => (evalAll value rest).map (b && ·)

def evalAny (value : VarId → Option Int64) : List Formula → Option Bool
  | [] => some false
  | f :: rest => (eval value f).bind fun b => (evalAny value rest).map (b || ·)

end

/-! ## Atoms -/

mutual

/-- The comparisons in the formula, left to right. -/
def atoms : Formula → List Atom
  | .const _ => []
  | .atom a => [a]
  | .not f => atoms f
  | .and parts => atomsAll parts
  | .or parts => atomsAll parts

def atomsAll : List Formula → List Atom
  | [] => []
  | f :: rest => atoms f ++ atomsAll rest

end

mutual

def mentions (x : VarId) : Formula → Bool
  | .const _ => false
  | .atom a => decide (a.var = x)
  | .not f => mentions x f
  | .and parts => mentionsAny x parts
  | .or parts => mentionsAny x parts

def mentionsAny (x : VarId) : List Formula → Bool
  | [] => false
  | f :: rest => mentions x f || mentionsAny x rest

end

/-! ## Text -/

mutual

/-- The formula written out, every part in parentheses. -/
def text : Formula → String
  | .const true => "true"
  | .const false => "false"
  | .atom a => "(v" ++ decimalText a.var.index ++ " " ++ a.comparator.symbol ++ " "
      ++ decimalText a.value.toInt ++ ")"
  | .not f => "(NOT " ++ text f ++ ")"
  | .and parts => "(" ++ String.intercalate " AND " (textAll parts) ++ ")"
  | .or parts => "(" ++ String.intercalate " OR " (textAll parts) ++ ")"

def textAll : List Formula → List String
  | [] => []
  | f :: rest => text f :: textAll rest

end

end Formula

end TransitionGuards
