import TransitionGuards.Machine

/-
  Groups of transitions that leave the same state on the same event: the sets
  in which exactly one transition should be possible at a time.
-/

namespace TransitionGuards

/-- Transitions from one state on one event. -/
structure Group where
  source : String
  event : String
  edges : List Edge
  deriving Inhabited

/-- The event as reports show it. -/
def eventLabel (event : String) : String := if event.isEmpty then "(empty)" else event

/-- The groups of transitions that all leave the same state, by event, in the
order of first appearance. -/
def groupByEvent (source : String) (edges : List Edge) : List Group :=
  (edges.map (·.event)).eraseDups.map fun event => ⟨source, event, edges.filter fun e => e.event == event⟩

/-- The groups of the transitions, by state and then by event, each in the order
of first appearance. -/
def groups (edges : List Edge) : List Group :=
  (edges.map (·.source)).eraseDups.flatMap fun source => groupByEvent source (edges.filter fun e => e.source == source)

end TransitionGuards
