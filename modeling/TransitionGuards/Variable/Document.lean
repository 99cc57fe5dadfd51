import TransitionGuards.Json.Decode
import TransitionGuards.Variable

/-
  Declared variables in documents.
-/

namespace TransitionGuards

def VariableKind.name : VariableKind → String
  | .int => "int"
  | .bool => "bool"
  | .enum => "enum"

def VariableKind.names : List (String × VariableKind) := [("int", .int), ("bool", .bool), ("enum", .enum)]

def decodeVariableKind : Decode VariableKind := decodeName VariableKind.names

def Variable.fields :=
  Fields.cons (.required "name" decodeString)
    (.cons (.required "type" decodeVariableKind)
      (.cons (.optional "minValue" decodeInt64)
        (.cons (.optional "maxValue" decodeInt64)
          (.cons (.optional "enumValues" (decodeList decodeString))
            (.cons (.optional "initialValue" decodeJson) .nil)))))

def decodeVariable : Decode Variable := fun doc =>
  (decodeRecord "EfsmVariable" Variable.fields false doc).map
    fun (name, kind, min, max, values, initial, _) => ⟨name, kind, min, max, values, initial⟩

def Variable.toJson (v : Variable) : Json :=
  .object ([("name", .string v.name), ("type", .string v.kind.name)]
    ++ Json.member? "minValue" .ofInt64 v.min
    ++ Json.member? "maxValue" .ofInt64 v.max
    ++ Json.member? "enumValues" (.ofList .string) v.values
    ++ Json.member? "initialValue" id v.initial)

end TransitionGuards
