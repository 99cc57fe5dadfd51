import TransitionGuards.Witness

/-
  The answers given to callers. A verdict whose `error` is set is a fallback:
  the analysis did not come to an end, and the answer is the one that raises
  no alarm.
-/

namespace TransitionGuards

/-- Whether two guards can hold at the same time. -/
structure SatisfiabilityVerdict where
  satisfiable : Bool
  /-- The text of a witness. -/
  model : Option String
  error : Option String
  deriving DecidableEq, Inhabited

namespace SatisfiabilityVerdict

def overlapping (w : Witness) : SatisfiabilityVerdict := ⟨true, some w.text, none⟩

def disjoint : SatisfiabilityVerdict := ⟨false, none, none⟩

/-- The verdict of an analysis that failed: the guards count as disjoint. -/
def fallback (message : String) : SatisfiabilityVerdict := ⟨false, none, some message⟩

def isFallback (v : SatisfiabilityVerdict) : Bool := v.error.isSome

end SatisfiabilityVerdict

/-- Whether at least one guard of a set holds on every input. -/
structure CompletenessVerdict where
  complete : Bool
  /-- The text of an input on which no guard holds. -/
  gapModel : Option String
  error : Option String
  deriving DecidableEq, Inhabited

namespace CompletenessVerdict

def covered : CompletenessVerdict := ⟨true, none, none⟩

def gap (w : Witness) : CompletenessVerdict := ⟨false, some w.text, none⟩

/-- The verdict of an analysis that failed: the guards count as complete. -/
def fallback (message : String) : CompletenessVerdict := ⟨true, none, some message⟩

def isFallback (v : CompletenessVerdict) : Bool := v.error.isSome

end CompletenessVerdict

end TransitionGuards
