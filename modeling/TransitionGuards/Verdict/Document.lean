import TransitionGuards.Json.Decode
import TransitionGuards.Verdict

/-
  Verdicts in documents.
-/

namespace TransitionGuards

def SatisfiabilityVerdict.fields :=
  Fields.cons (.required "satisfiable" decodeBool)
    (.cons (.nullable "model" decodeString)
      (.cons (.nullable "error" decodeString) .nil))

def decodeSatisfiabilityVerdict : Decode SatisfiabilityVerdict := fun doc =>
  (decodeRecord "SatisfiabilityVerdict" SatisfiabilityVerdict.fields false doc).map
    fun (satisfiable, model, error, _) => ⟨satisfiable, model, error⟩

def SatisfiabilityVerdict.toJson (v : SatisfiabilityVerdict) : Json :=
  .object [("satisfiable", .bool v.satisfiable), ("model", .ofOption .string v.model),
    ("error", .ofOption .string v.error)]

def CompletenessVerdict.fields :=
  Fields.cons (.required "complete" decodeBool)
    (.cons (.nullable "gap_model" decodeString)
      (.cons (.nullable "error" decodeString) .nil))

def decodeCompletenessVerdict : Decode CompletenessVerdict := fun doc =>
  (decodeRecord "CompletenessVerdict" CompletenessVerdict.fields false doc).map
    fun (complete, gapModel, error, _) => ⟨complete, gapModel, error⟩

def CompletenessVerdict.toJson (v : CompletenessVerdict) : Json :=
  .object [("complete", .bool v.complete), ("gap_model", .ofOption .string v.gapModel),
    ("error", .ofOption .string v.error)]

end TransitionGuards
