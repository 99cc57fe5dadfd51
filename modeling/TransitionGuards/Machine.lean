import TransitionGuards.Guard
import TransitionGuards.Variable

/-
  Machines as an editor stores them: states, and transitions between them that
  an event triggers and a guard may hold back.
-/

namespace TransitionGuards

inductive NodeKind where
  | initial
  | normal
  | final
  deriving DecidableEq, Repr, Inhabited

/-- What the editor knows of a node. -/
structure NodeData where
  label : Option String
  kind : Option NodeKind
  deriving DecidableEq, Inhabited

/-- A state. -/
structure Node where
  id : String
  data : Option NodeData
  deriving DecidableEq, Inhabited

namespace Node

def kind (n : Node) : Option NodeKind := n.data.bind (·.kind)

/-- The label, or the identifier where there is no label or an empty one. -/
def label (n : Node) : String :=
  match n.data.bind (·.label) with
  | some label => if label.isEmpty then n.id else label
  | none => n.id

end Node

/-- What the editor knows of a transition. The condition is kept as it was
stored, for it has been stored in several shapes. -/
structure EdgeData where
  event : Option String
  condition : Option Json
  action : Option Json
  useProtocolConditions : Option Bool
  protocolConditions : Option (List FieldCondition)
  deriving Inhabited

/-- A transition. -/
structure Edge where
  id : String
  source : String
  target : String
  data : Option EdgeData
  deriving Inhabited

/-- The event that triggers the transition; none at all is the empty event. -/
def Edge.event (e : Edge) : String := (e.data.bind (·.event)).getD ""

/-- A machine with the variables that its guards may use. -/
structure Machine where
  nodes : List Node
  edges : List Edge
  declared : List Variable
  deriving Inhabited

end TransitionGuards
