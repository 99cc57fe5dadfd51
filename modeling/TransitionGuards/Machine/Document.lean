import TransitionGuards.Machine.Report
import TransitionGuards.Variable.Document

/-
  Machines and reports in documents.
-/

namespace TransitionGuards

/-! ## States -/

def NodeKind.name : NodeKind → String
  | .initial => "initial"
  | .normal => "normal"
  | .final => "final"

def NodeKind.names : List (String × NodeKind) := [("initial", .initial), ("normal", .normal), ("final", .final)]

def decodeNodeKind : Decode NodeKind := decodeName NodeKind.names

def NodeData.fields :=
  Fields.cons (.optional "label" decodeString) (.cons (.optional "type" decodeNodeKind) .nil)

def decodeNodeData : Decode NodeData := fun doc =>
  (decodeRecord "NodeData" NodeData.fields false doc).map fun (label, kind, _) => ⟨label, kind⟩

def NodeData.toJson (d : NodeData) : Json :=
  .object [("label", .ofOption .string d.label), ("type", .ofOption (fun k => .string k.name) d.kind)]

def Node.fields :=
  Fields.cons (.required "id" decodeString) (.cons (.optional "data" decodeNodeData) .nil)

def decodeNode : Decode Node := fun doc =>
  (decodeRecord "FsmNode" Node.fields false doc).map fun (id, data, _) => ⟨id, data⟩

def Node.toJson (n : Node) : Json := .object [("id", .string n.id), ("data", .ofOption NodeData.toJson n.data)]

/-! ## Transitions -/

def EdgeData.fields :=
  Fields.cons (.optional "event" decodeString)
    (.cons (.optional "condition" decodeJson)
      (.cons (.optional "action" decodeJson)
        (.cons (.optional "use_protocol_conditions" decodeBool)
          (.cons (.optional "protocol_conditions" (decodeList decodeFieldCondition)) .nil))))

def decodeEdgeData : Decode EdgeData := fun doc =>
  (decodeRecord "EdgeData" EdgeData.fields false doc).map
    fun (event, condition, action, useConditions, conditions, _) =>
      ⟨event, condition, action, useConditions, conditions⟩

def EdgeData.toJson (d : EdgeData) : Json :=
  .object [("event", .ofOption .string d.event), ("condition", .ofOption id d.condition),
    ("action", .ofOption id d.action), ("use_protocol_conditions", .ofOption .bool d.useProtocolConditions),
    ("protocol_conditions", .ofOption (.ofList FieldCondition.toJson) d.protocolConditions)]

def Edge.fields :=
  Fields.cons (.required "id" decodeString)
    (.cons (.required "source" decodeString)
      (.cons (.required "target" decodeString)
        (.cons (.optional "data" decodeEdgeData) .nil)))

def decodeEdge : Decode Edge := fun doc =>
  (decodeRecord "FsmEdge" Edge.fields false doc).map fun (id, source, target, data, _) => ⟨id, source, target, data⟩

def Edge.toJson (e : Edge) : Json :=
  .object [("id", .string e.id), ("source", .string e.source), ("target", .string e.target),
    ("data", .ofOption EdgeData.toJson e.data)]

/-! ## Machines -/

def Machine.fields :=
  Fields.cons (.default "nodes" (decodeList decodeNode) [])
    (.cons (.default "edges" (decodeList decodeEdge) [])
      (.cons (.default "variables" (decodeList decodeVariable) []) .nil))

def decodeMachine : Decode Machine := fun doc =>
  (decodeRecord "FsmDefinition" Machine.fields false doc).map
    fun (nodes, edges, declared, _) => ⟨nodes, edges, declared⟩

def Machine.toJson (machine : Machine) : Json :=
  .object [("nodes", .ofList Node.toJson machine.nodes), ("edges", .ofList Edge.toJson machine.edges),
    ("variables", .ofList Variable.toJson machine.declared)]

/-! ## Reports -/

def DeterminismIssue.fields :=
  Fields.cons (.required "state" decodeString)
    (.cons (.required "event" decodeString)
      (.cons (.required "targets" (decodeList decodeString))
        (.cons (.required "guard1" decodeGuard)
          (.cons (.required "guard2" decodeGuard)
            (.cons (.nullable "counterExample" decodeString) .nil)))))

def decodeDeterminismIssue : Decode DeterminismIssue := fun doc =>
  (decodeRecord "DeterminismIssue" DeterminismIssue.fields false doc).map
    fun (state, event, targets, guard₁, guard₂, counterExample, _) =>
      ⟨state, event, targets, guard₁, guard₂, counterExample⟩

def DeterminismIssue.toJson (i : DeterminismIssue) : Json :=
  .object [("state", .string i.state), ("event", .string i.event), ("targets", .ofList .string i.targets),
    ("guard1", i.guard₁.toJson), ("guard2", i.guard₂.toJson), ("counterExample", .ofOption .string i.counterExample)]

def CompletenessIssue.fields :=
  Fields.cons (.required "state" decodeString)
    (.cons (.required "event" decodeString)
      (.cons (.nullable "gapModel" decodeString) .nil))

def decodeCompletenessIssue : Decode CompletenessIssue := fun doc =>
  (decodeRecord "CompletenessIssue" CompletenessIssue.fields false doc).map
    fun (state, event, gapModel, _) => ⟨state, event, gapModel⟩

def CompletenessIssue.toJson (i : CompletenessIssue) : Json :=
  .object [("state", .string i.state), ("event", .string i.event), ("gapModel", .ofOption .string i.gapModel)]

def StateRef.fields :=
  Fields.cons (.required "id" decodeString) (.cons (.required "label" decodeString) .nil)

def decodeStateRef : Decode StateRef := fun doc =>
  (decodeRecord "StateRef" StateRef.fields false doc).map fun (id, label, _) => ⟨id, label⟩

def StateRef.toJson (s : StateRef) : Json := .object [("id", .string s.id), ("label", .string s.label)]

def Report.fields :=
  Fields.cons (.required "determinism" (decodeList decodeDeterminismIssue))
    (.cons (.required "completeness" (decodeList decodeCompletenessIssue))
      (.cons (.required "dead_states" (decodeList decodeStateRef))
        (.cons (.required "unreachable_states" (decodeList decodeStateRef)) .nil)))

def decodeReport : Decode Report := fun doc =>
  (decodeRecord "FsmReport" Report.fields false doc).map
    fun (determinism, completeness, dead, unreachable, _) => ⟨determinism, completeness, dead, unreachable⟩

def Report.toJson (r : Report) : Json :=
  .object [("determinism", .ofList DeterminismIssue.toJson r.determinism),
    ("completeness", .ofList CompletenessIssue.toJson r.completeness),
    ("dead_states", .ofList StateRef.toJson r.deadStates),
    ("unreachable_states", .ofList StateRef.toJson r.unreachableStates)]

end TransitionGuards
