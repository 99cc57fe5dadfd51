import TransitionGuards.Comparator
import TransitionGuards.Json.Value
import TransitionGuards.Text.Blank

/-
  Guards: the conditions under which a transition may be taken. A protocol
  guard compares fields of a message, a manual guard is free text, and there is
  the guard that always holds.
-/

namespace TransitionGuards

/-- What a field is compared with, as it came in a document. -/
inductive ConditionValue where
  | bool (b : Bool)
  | integer (v : Int64)
  | float (x : Float)
  | text (s : String)
  /-- `null`, a list or an object. -/
  | other (v : Json)
  deriving Inhabited

/-- The comparison of one field with a value. -/
structure FieldCondition where
  fieldId : String
  comparator : Comparator
  value : Option ConditionValue
  /-- A label of the editor for the value. -/
  optionName : Option String
  deriving Inhabited

def FieldCondition.of (fieldId : String) (comparator : Comparator) (value : ConditionValue) : FieldCondition :=
  ⟨fieldId, comparator, some value, none⟩

/-- The name of the variable that stands for the field. -/
def FieldCondition.variableName (c : FieldCondition) : String := "field_" ++ c.fieldId

/-- A guard of a transition. -/
inductive Guard where
  /-- All the conditions have to hold. -/
  | protocol (conditions : List FieldCondition)
  | manual (text : String)
  | alwaysTrue
  deriving Inhabited

/-- Whether the guard states no condition at all. -/
def Guard.isVacuous : Guard → Bool
  | .alwaysTrue => true
  | .protocol conditions => conditions.isEmpty
  | .manual text => allBlank text.toList

end TransitionGuards
