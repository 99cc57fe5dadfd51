import TransitionGuards.Expression.Reader
import TransitionGuards.Search

/-
  The settings of an analysis.
-/

namespace TransitionGuards

/-- The decision procedures that can be asked for by name. -/
inductive BackendKind where
  | builtin
  | z3
  deriving DecidableEq, Repr, Inhabited

namespace BackendKind

def name : BackendKind → String
  | .builtin => "builtin"
  | .z3 => "z3"

/-- The decision procedure, reading the same clock in every query. Only the
built-in one is there; the other declines every query. -/
def instantiate {m : Type → Type} [Monad m] (clock : Clock) : BackendKind → Backend m
  | .builtin => .builtin (pure clock)
  | .z3 => .declining "z3" "built without the `z3` feature"

end BackendKind

/-- How guards are read and how long a query may take. -/
structure Config where
  backend : BackendKind
  precedence : Precedence
  strict : Bool
  timeoutMs : Option UInt64
  maxDecisions : Option UInt64
  deriving DecidableEq, Inhabited

namespace Config

def default : Config := ⟨.builtin, .legacy, false, none, some 1000000⟩

/-- The settings with a timeout of whole milliseconds, at most as many as 64
bits hold. -/
def withTimeout (c : Config) (d : Duration) : Config :=
  { c with timeoutMs := some (min d.milliseconds maxUInt64).toUInt64 }

def limits (c : Config) : Limits :=
  ⟨c.timeoutMs.map fun ms => .ofMilliseconds ms.toNat, c.maxDecisions.map (·.toNat)⟩

end Config

end TransitionGuards
