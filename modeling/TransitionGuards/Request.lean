import TransitionGuards.Analyzer
import TransitionGuards.Guard.Document
import TransitionGuards.Variable.Document

/-
  Requests: documents that ask one question about guards.
-/

namespace TransitionGuards

/-- Can two guards hold at the same time? -/
structure PairRequest where
  guard₁ : Guard
  guard₂ : Guard
  deriving Inhabited

def PairRequest.fields :=
  Fields.cons (.required "guard1" decodeGuard) (.cons (.required "guard2" decodeGuard) .nil)

def decodePairRequest : Decode PairRequest := fun doc =>
  (decodeRecord "CheckGuardsRequest" PairRequest.fields false doc).map fun (guard₁, guard₂, _) => ⟨guard₁, guard₂⟩

def PairRequest.toJson (r : PairRequest) : Json := .object [("guard1", r.guard₁.toJson), ("guard2", r.guard₂.toJson)]

/-- Do the guards of one state and event cover every input? State and event are
labels of the caller. -/
structure CompletenessRequest where
  guards : List Guard
  state : String
  event : String
  declared : Option (List Variable)
  deriving Inhabited

def CompletenessRequest.fields :=
  Fields.cons (.required "guards" (decodeList decodeGuard))
    (.cons (.default "state" decodeString "")
      (.cons (.default "event" decodeString "")
        (.cons (.optional "variables" (decodeList decodeVariable)) .nil)))

def decodeCompletenessRequest : Decode CompletenessRequest := fun doc =>
  (decodeRecord "CheckCompletenessRequest" CompletenessRequest.fields false doc).map
    fun (guards, state, event, declared, _) => ⟨guards, state, event, declared⟩

def CompletenessRequest.toJson (r : CompletenessRequest) : Json :=
  .object [("guards", .ofList Guard.toJson r.guards), ("state", .string r.state), ("event", .string r.event),
    ("variables", .ofOption (.ofList Variable.toJson) r.declared)]

namespace Analyzer

variable {m : Type → Type} [Monad m]

def answerPair (a : Analyzer m) (r : PairRequest) : m SatisfiabilityVerdict := a.checkPair r.guard₁ r.guard₂

def answerCompleteness (a : Analyzer m) (r : CompletenessRequest) : m CompletenessVerdict :=
  a.checkComplete r.guards (r.declared.getD [])

end Analyzer

end TransitionGuards
