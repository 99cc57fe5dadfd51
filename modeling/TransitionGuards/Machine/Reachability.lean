import TransitionGuards.Machine

/-
  States that the machine cannot leave and states that it cannot get into.

  The latter are found by a walk. It starts at the nodes of kind `initial`, keeps
  the states that it has met, each once, and has those in a queue that it still has
  to go on from.
-/

namespace TransitionGuards

/-- A state as reports name it. -/
structure StateRef where
  id : String
  label : String
  deriving DecidableEq, Inhabited

def Node.ref (n : Node) : StateRef := ⟨n.id, n.label⟩

/-- The states that are not final and that no transition leaves. -/
def deadStates (nodes : List Node) (edges : List Edge) : List StateRef :=
  let sources := edges.map (·.source)
  (nodes.filter fun n => n.kind != some .final && !sources.contains n.id).map (·.ref)

/-- The states of kind `initial`. -/
def initialStates (nodes : List Node) : List String := (nodes.filter fun n => n.kind == some .initial).map (·.id)

/-- The states that transitions leave, each with the targets of these transitions. -/
abbrev Adjacency := List (String × List String)

namespace Adjacency

/-- Puts the target behind the others of its source; a new source comes last. -/
def add : Adjacency → Edge → Adjacency
  | [], e => [(e.source, [e.target])]
  | (source, targets) :: rest, e =>
    if source = e.source then (source, targets ++ [e.target]) :: rest else (source, targets) :: add rest e

def ofEdges (edges : List Edge) : Adjacency := edges.foldl add []

/-- The targets of the transitions that leave the state. -/
def next (adjacency : Adjacency) (state : String) : List String := (adjacency.lookup state).getD []

def targets (adjacency : Adjacency) : List String := adjacency.flatMap (·.2)

theorem next_cons (source : String) (ends : List String) (rest : Adjacency) (state : String) :
    next ((source, ends) :: rest) state = if state = source then ends else next rest state := by
  by_cases here : state = source
  · simp [next, here]
  · simp [next, List.lookup_cons, here, beq_eq_false_iff_ne.2 here]

theorem next_subset_targets (state : String) : ∀ adjacency : Adjacency, adjacency.next state ⊆ adjacency.targets
  | [] => List.nil_subset _
  | (source, ends) :: rest => by
    rw [next_cons, targets, List.flatMap_cons]
    split
    · exact List.subset_append_left ..
    · exact List.subset_append_of_subset_right _ (next_subset_targets state rest)

end Adjacency

/-- The states met, and those of them from which the walk has not gone on yet. -/
structure Walk where
  met : List String
  queue : List String

namespace Walk

/-- Meets the state. If that is new, it waits at the end of the queue. -/
def meet (w : Walk) (state : String) : Walk :=
  if w.met.contains state then w else ⟨w.met ++ [state], w.queue ++ [state]⟩

/-- What meeting a state does to the walk. -/
theorem meet_cases (w : Walk) (state : String) :
    (state ∈ w.met ∧ w.meet state = w) ∨ (state ∉ w.met ∧ w.meet state = ⟨w.met ++ [state], w.queue ++ [state]⟩) := by
  by_cases met : state ∈ w.met
  · exact .inl ⟨met, by simp [meet, met]⟩
  · exact .inr ⟨met, by simp [meet, met]⟩

def meetAll (w : Walk) (states : List String) : Walk := states.foldl meet w

/-- Takes the first state off the queue and meets the targets of the transitions that leave it. -/
def advance (adjacency : Adjacency) (w : Walk) : Walk :=
  match w.queue with
  | [] => w
  | state :: rest => meetAll ⟨w.met, rest⟩ (adjacency.next state)

/-- Those of the states that have not been met. -/
def unmet (states : List String) (w : Walk) : List String := states.filter fun state => !w.met.contains state

/-- How many turns are left at most: for the states that wait and for those that may still be met. -/
def left (states : List String) (w : Walk) : Nat := (w.unmet states).length + w.queue.length

section
variable {states : List String} {state : String}

/-- A state that is met for the first time is one fewer to meet and one more that waits. -/
theorem left_meet_le (known : state ∈ states) (w : Walk) : (w.meet state).left states ≤ w.left states := by
  rcases w.meet_cases state with ⟨_, same⟩ | ⟨new, grown⟩
  · exact Nat.le_of_eq (congrArg (left states) same)
  · have due : state ∈ w.unmet states := by simp [unmet, known, new]
    have others : unmet states ⟨w.met ++ [state], w.queue ++ [state]⟩ = (w.unmet states).filter (· ≠ state) := by
      simp [unmet, Bool.and_comm]
    have fewer : ((w.unmet states).filter (· ≠ state)).length < (w.unmet states).length :=
      List.length_filter_lt_length_iff_exists.2 ⟨state, due, by simp⟩
    rw [grown, left, left, others, List.length_append, List.length_singleton]
    omega

theorem left_meetAll_le : ∀ {news : List String}, news ⊆ states → ∀ w : Walk,
    (w.meetAll news).left states ≤ w.left states
  | [], _, _ => Nat.le_refl _
  | state :: _, known, w =>
    have known := List.cons_subset.1 known
    Nat.le_trans (left_meetAll_le known.2 (w.meet state)) (left_meet_le known.1 w)

theorem left_advance_lt (adjacency : Adjacency) {w : Walk} (waiting : w.queue ≠ []) :
    (w.advance adjacency).left adjacency.targets < w.left adjacency.targets := by
  match h : w.queue with
  | [] => exact absurd h waiting
  | state :: rest =>
    have met := left_meetAll_le (adjacency.next_subset_targets state) ⟨w.met, rest⟩
    rw [advance, h]
    simp only [left, h, List.length_cons]
    exact Nat.lt_succ_of_le met

end

/-- Goes on until no state waits. Each turn takes a state off the queue, and what
it puts there are targets not met before. -/
def run (adjacency : Adjacency) (w : Walk) : Walk :=
  if w.queue = [] then w else run adjacency (w.advance adjacency)
termination_by w.left adjacency.targets
decreasing_by exact left_advance_lt adjacency ‹_›

def start (nodes : List Node) : Walk := meetAll ⟨[], []⟩ (initialStates nodes)

end Walk

/-- The states that the machine can get into from a node of kind `initial`. -/
def reachedStates (nodes : List Node) (edges : List Edge) : List String :=
  ((Walk.start nodes).run (.ofEdges edges)).met

/-- The states that the machine cannot get into. -/
def unreachableStates (nodes : List Node) (edges : List Edge) : List StateRef :=
  let reached := reachedStates nodes edges
  (nodes.filter fun n => !reached.contains n.id).map (·.ref)

end TransitionGuards
