import TransitionGuards.Formula
import TransitionGuards.Json.Value

/-
  Declared variables of a machine and the integers they range over: booleans
  are 0 and 1, an enumeration counts its values from 0, and an integer
  variable may have bounds on either side.
-/

namespace TransitionGuards

inductive VariableKind where
  | int
  | bool
  | enum
  deriving DecidableEq, Repr, Inhabited

/-- A declared variable. -/
structure Variable where
  name : String
  kind : VariableKind
  min : Option Int64
  max : Option Int64
  values : Option (List String)
  initial : Option Json
  deriving Inhabited

/-- A declaration under which a variable has no value at all. -/
inductive DomainError where
  | invertedBounds (name : String) (min max : Int64)
  | emptyEnum (name : String)
  | enumTooLarge (name : String)
  deriving DecidableEq, Inhabited

def DomainError.message : DomainError → String
  | .invertedBounds name min max =>
    "variable '" ++ name ++ "' has invalid bounds: min " ++ decimalText min.toInt ++ " > max " ++ decimalText max.toInt
  | .emptyEnum name => "enum variable '" ++ name ++ "' declares no values"
  | .enumTooLarge name => "enum variable '" ++ name ++ "' declares more values than fit in an integer domain"

namespace Variable

/-- An integer variable, bounded or not on either side. -/
def ofInt (name : String) (min max : Option Int64) : Variable := ⟨name, .int, min, max, none, none⟩

def ofBool (name : String) : Variable := ⟨name, .bool, none, none, none, none⟩

def ofEnum (name : String) (values : List String) : Variable := ⟨name, .enum, none, none, some values, none⟩

/-- The least and the greatest value, as far as there are any. -/
def bounds (v : Variable) : Except DomainError (Option Int64 × Option Int64) :=
  match v.kind with
  | .int =>
    match v.min, v.max with
    | some min, some max => if max < min then .error (.invertedBounds v.name min max) else .ok (some min, some max)
    | min, max => .ok (min, max)
  | .bool => .ok (some 0, some 1)
  | .enum =>
    match (v.values.getD []).length with
    | 0 => .error (.emptyEnum v.name)
    | n + 1 =>
      match int64? n with
      | none => .error (.enumTooLarge v.name)
      | some last => .ok (some 0, some last)

/-- The values of the variable as a constraint on `x`. -/
def constraint (v : Variable) (x : VarId) : Except DomainError Formula :=
  match v.bounds with
  | .error e => .error e
  | .ok (min, max) =>
    .ok (Formula.conj ((min.map (.compare x .ge)).toList ++ (max.map (.compare x .le)).toList))

end Variable

end TransitionGuards
