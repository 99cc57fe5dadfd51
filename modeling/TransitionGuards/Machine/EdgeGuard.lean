import TransitionGuards.Guard.Document
import TransitionGuards.Machine

/-
  The guard of a transition, out of the shapes in which editors have stored it:
  a condition object that names its type, a list of field conditions beside a
  switch, or plain text. The first shape that holds a condition counts, and
  where none does the guard always holds.
-/

namespace TransitionGuards

/-- A manual guard of text that is not blank, without the blanks around it. -/
def Guard.ofText? (text : String) : Option Guard :=
  if allBlank text.toList then none else some (.manual (trimText text))

/-- A protocol guard of at least one condition. -/
def Guard.ofConditions? : List FieldCondition → Option Guard
  | [] => none
  | conditions => some (.protocol conditions)

namespace EdgeData

/-- The field conditions that a stored value is; none at all if it is anything
else. -/
def storedConditions (v : Json) : List FieldCondition :=
  match decodeList decodeFieldCondition (Doc.ofJson v) with
  | .ok conditions => conditions
  | .error _ => []

/-- The guard of a condition object that names its type. -/
def typedGuard? (condition : Json) : Option Guard :=
  match (condition.get? "type").bind Json.string? with
  | some "protocol" => (condition.get? "conditions").bind fun v => Guard.ofConditions? (storedConditions v)
  | some "manual" => ((condition.get? "text").bind Json.string?).bind Guard.ofText?
  | _ => none

/-- The guard of the list of field conditions, if it is switched on. -/
def listedGuard? (d : EdgeData) : Option Guard :=
  if d.useProtocolConditions = some true then d.protocolConditions.bind Guard.ofConditions? else none

def guard (d : EdgeData) : Guard :=
  ((d.condition.bind typedGuard?).or
    (d.listedGuard?.or
      ((d.condition.bind Json.string?).bind Guard.ofText?))).getD .alwaysTrue

end EdgeData

def Edge.guard (e : Edge) : Guard :=
  match e.data with
  | some d => d.guard
  | none => .alwaysTrue

end TransitionGuards
