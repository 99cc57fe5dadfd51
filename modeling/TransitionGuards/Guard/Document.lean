import TransitionGuards.Guard
import TransitionGuards.Json.Decode

/-
  Guards in documents. A guard is a record of its type, its conditions and its
  text; the fields that do not belong to the type are read and then ignored.
-/

namespace TransitionGuards

/-! ## Values -/

/-- The condition value that a JSON value is. A number that no 64-bit signed
integer equals is a floating-point number. -/
def ConditionValue.ofJson : Json → ConditionValue
  | .bool b => .bool b
  | .number (.integer n) => match int64? n with
    | some v => .integer v
    | none => .float (Float.ofInt n)
  | .number (.real x _) => .float x
  | .string s => .text s
  | v => .other v

def ConditionValue.toJson : ConditionValue → Json
  | .bool b => .bool b
  | .integer v => .ofInt64 v
  | .float x => .ofFloat x
  | .text s => .string s
  | .other v => v

def decodeConditionValue : Decode ConditionValue := fun doc => (decodeJson doc).map .ofJson

/-! ## Conditions -/

def decodeComparator : Decode Comparator := decodeName Comparator.names

def FieldCondition.fields :=
  Fields.cons (.required "field_id" decodeString)
    (.cons (.required "operator" decodeComparator)
      (.cons (.optional "value" decodeConditionValue)
        (.cons (.optional "field_option_name" decodeString) .nil)))

def decodeFieldCondition : Decode FieldCondition := fun doc =>
  (decodeRecord "FieldCondition" FieldCondition.fields false doc).map
    fun (fieldId, comparator, value, optionName, _) => ⟨fieldId, comparator, value, optionName⟩

def FieldCondition.toJson (c : FieldCondition) : Json :=
  .object ([("field_id", .string c.fieldId), ("operator", .string c.comparator.name),
      ("value", .ofOption ConditionValue.toJson c.value)]
    ++ Json.member? "field_option_name" .string c.optionName)

/-! ## Guards -/

inductive GuardKind where
  | protocol
  | manual
  | alwaysTrue
  deriving DecidableEq, Repr

def GuardKind.names : List (String × GuardKind) :=
  [("protocol", .protocol), ("manual", .manual), ("always_true", .alwaysTrue)]

def Guard.fields :=
  Fields.cons (.required "type" (decodeName GuardKind.names))
    (.cons (.optional "protocolConditions" (decodeList decodeFieldCondition))
      (.cons (.optional "manualExpression" decodeString) .nil))

/-- The guard of the given type; a field of the type that is missing counts as
empty. -/
def Guard.ofParts (kind : GuardKind) (conditions : Option (List FieldCondition)) (text : Option String) : Guard :=
  match kind with
  | .protocol => .protocol (conditions.getD [])
  | .manual => .manual (text.getD "")
  | .alwaysTrue => .alwaysTrue

def decodeGuard : Decode Guard := fun doc =>
  (decodeRecord "RawGuard" Guard.fields false doc).map fun (kind, conditions, text, _) => .ofParts kind conditions text

def Guard.toJson : Guard → Json
  | .protocol conditions =>
    .object [("type", .string "protocol"), ("protocolConditions", .ofList FieldCondition.toJson conditions)]
  | .manual text => .object [("type", .string "manual"), ("manualExpression", .string text)]
  | .alwaysTrue => .object [("type", .string "always_true")]

end TransitionGuards
