import TransitionGuards.Machine.Reachability
import Mathlib.Data.List.Induction
import Mathlib.Data.List.Nodup
import Mathlib.Data.List.Perm.Subperm
import Mathlib.Logic.Function.Iterate
import Mathlib.Logic.Relation

/-
  The states that a machine cannot get into are those to which no path of
  transitions leads.

  At any turn of the walk the states met are those that were taken off the queue,
  and behind them those that wait in it. They are distinct, paths lead to them, and
  the transitions that leave a state taken off end in states that are met
  (`Walk.Reaches`). A turn keeps it so (`Walk.Reaches.advance`), hence so does any
  number of turns (`Walk.reaches_after`). The walk ends after one turn for each
  state that it reaches (`Walk.ended_iff`). No path leads out of the states met then
  (`Leads.stays`), so these are the ones to which paths lead (`mem_reachedStates`),
  be it in circles or through states that are no nodes.
-/

namespace TransitionGuards

/-- Whether some transition leads from the one state to the other. -/
def Step (edges : List Edge) (state next : String) : Prop := ∃ e ∈ edges, e.source = state ∧ e.target = next

/-- Whether a path of transitions, possibly of none at all, leads from the one
state to the other. -/
def Leads (edges : List Edge) : String → String → Prop := Relation.ReflTransGen (Step edges)

/-- Whether the machine can get into the state from a node of kind `initial`. -/
def Entered (nodes : List Node) (edges : List Edge) (state : String) : Prop :=
  ∃ n ∈ nodes, n.kind = some .initial ∧ Leads edges n.id state

section
variable {nodes : List Node} {edges edges' : List Edge} {state next start goal : String}

theorem Leads.mono (sub : edges ⊆ edges') (h : Leads edges start goal) : Leads edges' start goal := by
  refine Relation.ReflTransGen.mono ?_ _ _ h
  intro _ _ step
  obtain ⟨e, he, ends⟩ := step
  exact ⟨e, sub he, ends⟩

theorem Leads.stays {states : List String} (closed : ∀ state ∈ states, ∀ next, Step edges state next → next ∈ states)
    (h : Leads edges start goal) (inside : start ∈ states) : goal ∈ states := by
  induction h with
  | refl => exact inside
  | tail _ step ih => exact closed _ ih _ step

theorem Entered.step (h : Entered nodes edges state) (step : Step edges state next) : Entered nodes edges next := by
  obtain ⟨n, hn, initial, leads⟩ := h
  exact ⟨n, hn, initial, leads.tail step⟩

theorem mem_initialStates : state ∈ initialStates nodes ↔ ∃ n ∈ nodes, n.kind = some .initial ∧ n.id = state := by
  simp [initialStates, and_assoc]

theorem Entered.cases (h : Entered nodes edges state) : state ∈ initialStates nodes ∨ state ∈ edges.map (·.target) := by
  obtain ⟨n, hn, initial, leads⟩ := h
  rcases Relation.ReflTransGen.cases_tail leads with here | ⟨last, _, step⟩
  · exact .inl (mem_initialStates.2 ⟨n, hn, initial, here.symm⟩)
  · obtain ⟨e, he, _, target⟩ := step
    exact .inr (List.mem_map.2 ⟨e, he, target⟩)

end

/-! ## Where transitions lead -/

namespace Adjacency

theorem next_add (state : String) (e : Edge) : ∀ adjacency : Adjacency,
    (adjacency.add e).next state = adjacency.next state ++ if state = e.source then [e.target] else []
  | [] => by
    rw [add, next_cons]
    rfl
  | (source, ends) :: rest => by
    by_cases own : source = e.source
    · rw [add, if_pos own, next_cons, next_cons, own]
      split <;> simp
    · rw [add, if_neg own, next_cons, next_cons, next_add state e rest]
      by_cases here : state = source
      · simp [here, own]
      · simp [here]

theorem next_ofEdges (edges : List Edge) (state : String) :
    (ofEdges edges).next state = (edges.filter (state = ·.source)).map (·.target) := by
  induction edges using List.reverseRecOn with
  | nil => rfl
  | append_singleton edges e ih =>
    have one : ofEdges (edges ++ [e]) = (ofEdges edges).add e := by simp [ofEdges]
    rw [one, next_add, ih, List.filter_append, List.map_append]
    by_cases here : state = e.source <;> simp [here]

theorem mem_next {edges : List Edge} {state next : String} : next ∈ (ofEdges edges).next state ↔ Step edges state next := by
  simp [next_ofEdges, Step, and_assoc, eq_comm]

end Adjacency

/-! ## The walk -/

namespace Walk

section
variable {nodes : List Node} {edges : List Edge} {adjacency : Adjacency} {taken rest : List String} {state : String}
  {w : Walk}

theorem mem_met_meet (w : Walk) (new : String) : state ∈ (w.meet new).met ↔ state ∈ w.met ∨ state = new := by
  rcases w.meet_cases new with ⟨known, same⟩ | ⟨_, grown⟩
  · rw [same, iff_self_or]
    exact fun same => same ▸ known
  · rw [grown, List.mem_append, List.mem_singleton]

theorem mem_met_meetAll (states : List String) (w : Walk) :
    state ∈ (w.meetAll states).met ↔ state ∈ w.met ∨ state ∈ states := by
  induction states generalizing w with
  | nil => simp [meetAll]
  | cons first rest ih => rw [meetAll, List.foldl_cons, ← meetAll, ih, mem_met_meet, List.mem_cons, or_assoc]

theorem nodup_met_meetAll (states : List String) (h : w.met.Nodup) : (w.meetAll states).met.Nodup := by
  induction states generalizing w with
  | nil => exact h
  | cons first rest ih =>
    refine ih ?_
    rcases w.meet_cases first with ⟨_, same⟩ | ⟨new, grown⟩
    · rw [same]
      exact h
    · rw [grown, ← List.concat_eq_append]
      exact List.Nodup.concat new h

/-- The states that are new go to the ends of both lists. -/
theorem exists_meetAll (states : List String) (w : Walk) :
    ∃ news, w.meetAll states = ⟨w.met ++ news, w.queue ++ news⟩ := by
  induction states generalizing w with
  | nil => exact ⟨[], by simp [meetAll]⟩
  | cons first rest ih =>
    obtain ⟨news, later⟩ := ih (w.meet first)
    rw [meetAll, List.foldl_cons, ← meetAll, later]
    rcases w.meet_cases first with ⟨_, same⟩ | ⟨_, grown⟩
    · exact ⟨news, by rw [same]⟩
    · exact ⟨first :: news, by simp [grown]⟩

/-- How far the walk has come when it has taken the states off the queue. -/
structure Reaches (nodes : List Node) (edges : List Edge) (taken : List String) (w : Walk) : Prop where
  met_eq : w.met = taken ++ w.queue
  distinct : w.met.Nodup
  begun : ∀ n ∈ nodes, n.kind = some .initial → n.id ∈ w.met
  entered : ∀ state ∈ w.met, Entered nodes edges state
  followed : ∀ state ∈ taken, ∀ next, Step edges state next → next ∈ w.met

theorem reaches_start (nodes : List Node) (edges : List Edge) : Reaches nodes edges [] (start nodes) := by
  have mem (state : String) : state ∈ (start nodes).met ↔ ∃ n ∈ nodes, n.kind = some .initial ∧ n.id = state := by
    rw [start, mem_met_meetAll, mem_initialStates]
    simp
  refine ⟨?_, nodup_met_meetAll _ List.nodup_nil, ?_, ?_, nofun⟩
  · obtain ⟨news, first⟩ := exists_meetAll (initialStates nodes) ⟨[], []⟩
    simp [start, first]
  · intro n hn initial
    exact (mem _).2 ⟨n, hn, initial, rfl⟩
  · intro state hstate
    obtain ⟨n, hn, initial, rfl⟩ := (mem state).1 hstate
    exact ⟨n, hn, initial, .refl⟩

/-- A turn takes the first state off the queue. -/
theorem Reaches.advance (h : Reaches nodes edges taken w) (first : w.queue = state :: rest) :
    Reaches nodes edges (taken ++ [state]) (w.advance (.ofEdges edges)) := by
  have parts : w.met = taken ++ state :: rest := first ▸ h.met_eq
  have here : state ∈ w.met := by simp [parts]
  have turn : w.advance (.ofEdges edges) = meetAll ⟨w.met, rest⟩ ((Adjacency.ofEdges edges).next state) := by
    simp [Walk.advance, first]
  have mem (other : String) : other ∈ (w.advance (.ofEdges edges)).met ↔ other ∈ w.met ∨ Step edges state other := by
    rw [turn, mem_met_meetAll, Adjacency.mem_next]
  refine ⟨?_, turn ▸ nodup_met_meetAll _ h.distinct, ?_, ?_, ?_⟩
  · obtain ⟨news, grown⟩ := exists_meetAll ((Adjacency.ofEdges edges).next state) ⟨w.met, rest⟩
    rw [turn, grown]
    simp [parts]
  · intro n hn initial
    exact (mem _).2 (.inl (h.begun n hn initial))
  · intro other hother
    rcases (mem other).1 hother with before | step
    · exact h.entered other before
    · exact (h.entered state here).step step
  -- the targets of the state taken off are met in this turn, those of the earlier ones were before
  · intro other hother next step
    rcases List.mem_append.1 hother with before | last
    · exact (mem next).2 (.inl (h.followed other before next step))
    · exact (mem next).2 (.inr (List.mem_singleton.1 last ▸ step))

/-- The walk after so many turns. -/
def after (nodes : List Node) (edges : List Edge) (turns : Nat) : Walk :=
  (advance (.ofEdges edges))^[turns] (start nodes)

/-- As long as states wait, each turn takes one off the queue. -/
theorem reaches_after (nodes : List Node) (edges : List Edge) (turns : Nat) :
    ∃ taken, Reaches nodes edges taken (after nodes edges turns) ∧
      taken.length ≤ turns ∧ ((after nodes edges turns).queue ≠ [] → taken.length = turns) := by
  induction turns with
  | zero => exact ⟨[], reaches_start nodes edges, Nat.le_refl 0, fun _ => rfl⟩
  | succ turns ih =>
    obtain ⟨taken, reaches, few, all⟩ := ih
    have turn : after nodes edges (turns + 1) = (after nodes edges turns).advance (.ofEdges edges) :=
      Function.iterate_succ_apply' _ _ _
    match waiting : (after nodes edges turns).queue with
    | [] =>
      have still : after nodes edges (turns + 1) = after nodes edges turns := by simp [turn, advance, waiting]
      rw [still]
      exact ⟨taken, reaches, by omega, fun more => absurd waiting more⟩
    | state :: rest =>
      have count : taken.length = turns := all (by simp [waiting])
      exact ⟨taken ++ [state], turn ▸ reaches.advance waiting, by simp [count], fun _ => by simp [count]⟩

theorem run_of_empty (h : w.queue = []) : w.run adjacency = w := by
  rw [run, if_pos h]

theorem run_advance (adjacency : Adjacency) (w : Walk) : (w.advance adjacency).run adjacency = w.run adjacency := by
  by_cases h : w.queue = []
  · simp [advance, h]
  · rw [run.eq_def adjacency w, if_neg h]

theorem run_iterate (adjacency : Adjacency) (turns : Nat) (w : Walk) :
    ((advance adjacency)^[turns] w).run adjacency = w.run adjacency := by
  induction turns with
  | zero => rfl
  | succ turns ih => rw [Function.iterate_succ_apply', run_advance, ih]

/-- Whatever the walk starts with, it ends with some turn. -/
theorem exists_run_eq (adjacency : Adjacency) (w : Walk) :
    ∃ turns, (advance adjacency)^[turns] w = w.run adjacency ∧ (w.run adjacency).queue = [] := by
  induction w using run.induct adjacency with
  | case1 w h => exact ⟨0, (run_of_empty h).symm, by rw [run_of_empty h, h]⟩
  | case2 w h ih =>
    obtain ⟨turns, last, done⟩ := ih
    rw [run_advance] at last done
    exact ⟨turns + 1, last, done⟩

end

end Walk

section
variable {nodes : List Node} {edges : List Edge} {state : String}

theorem reaches_reachedStates (nodes : List Node) (edges : List Edge) :
    Walk.Reaches nodes edges (reachedStates nodes edges) ((Walk.start nodes).run (.ofEdges edges)) := by
  obtain ⟨turns, last, done⟩ := Walk.exists_run_eq (.ofEdges edges) (Walk.start nodes)
  obtain ⟨taken, reaches, _⟩ := Walk.reaches_after nodes edges turns
  rw [Walk.after, last] at reaches
  have all : reachedStates nodes edges = taken := by rw [reachedStates, reaches.met_eq, done, List.append_nil]
  exact all ▸ reaches

theorem mem_reachedStates : state ∈ reachedStates nodes edges ↔ Entered nodes edges state := by
  have reaches := reaches_reachedStates nodes edges
  constructor
  · exact reaches.entered state
  · intro h
    obtain ⟨n, hn, initial, leads⟩ := h
    exact leads.stays reaches.followed (reaches.begun n hn initial)

instance : Decidable (Entered nodes edges state) := decidable_of_iff _ mem_reachedStates

theorem unreachableStates_eq (nodes : List Node) (edges : List Edge) :
    unreachableStates nodes edges = (nodes.filter fun n => !decide (Entered nodes edges n.id)).map (·.ref) := by
  rw [unreachableStates]
  congr 1
  apply List.filter_congr
  intro n _
  rw [Bool.eq_iff_iff]
  simp [mem_reachedStates]

theorem length_reachedStates_le (nodes : List Node) (edges : List Edge) :
    (reachedStates nodes edges).length ≤ nodes.length + edges.length := by
  have distinct : (reachedStates nodes edges).Nodup := (reaches_reachedStates nodes edges).distinct
  have inside : reachedStates nodes edges ⊆ initialStates nodes ++ edges.map (·.target) := by
    intro state hstate
    exact List.mem_append.2 (mem_reachedStates.1 hstate).cases
  have bound := (List.subperm_of_subset distinct inside).length_le
  have initials : (initialStates nodes).length ≤ nodes.length := by
    rw [initialStates, List.length_map]
    exact List.length_filter_le ..
  rw [List.length_append, List.length_map] at bound
  omega

namespace Walk

theorem met_of_ended {turns : Nat} (ended : (after nodes edges turns).queue = []) :
    (after nodes edges turns).met = reachedStates nodes edges := by
  rw [reachedStates, ← run_iterate (.ofEdges edges) turns]
  exact congrArg met (run_of_empty ended).symm

/-- The walk takes one turn for each state that it reaches. -/
theorem ended_iff (nodes : List Node) (edges : List Edge) (turns : Nat) :
    (after nodes edges turns).queue = [] ↔ (reachedStates nodes edges).length ≤ turns := by
  obtain ⟨taken, reaches, few, all⟩ := reaches_after nodes edges turns
  constructor
  · intro ended
    rw [← met_of_ended ended, reaches.met_eq, ended, List.append_nil]
    exact few
  · intro enough
    -- a state that waits is one more than those taken off, and all of them are reached
    by_contra more
    have waiting := List.length_pos_iff.2 more
    have inside : (after nodes edges turns).met ⊆ reachedStates nodes edges := by
      intro state hstate
      exact mem_reachedStates.2 (reaches.entered state hstate)
    have bound := (List.subperm_of_subset reaches.distinct inside).length_le
    rw [reaches.met_eq, List.length_append, all more] at bound
    omega

end Walk

end

/-- The states reported as unreachable are the nodes, in their order and as often
as they are listed, to which no path of transitions leads from a node of kind
`initial`. Without such a node they are all nodes. The walk takes a turn for each
state that it reaches, at most as many as there are nodes and transitions. After
any number of turns it has met each state once, paths lead to all of these, and
from those that do not wait any more each transition ends in one of them. -/
theorem unreachableStates_exact (nodes : List Node) (edges : List Edge) :
    unreachableStates nodes edges = (nodes.filter fun n => !decide (Entered nodes edges n.id)).map (·.ref) ∧
    ((∀ n ∈ nodes, n.kind ≠ some .initial) → unreachableStates nodes edges = nodes.map (·.ref)) ∧
    (reachedStates nodes edges).length ≤ nodes.length + edges.length ∧
    ∀ turns, let w := Walk.after nodes edges turns
      (w.queue = [] ↔ (reachedStates nodes edges).length ≤ turns) ∧
      (w.queue = [] → w.met = reachedStates nodes edges) ∧
      w.met.Nodup ∧ (∀ state ∈ w.met, Entered nodes edges state) ∧
      ∀ state ∈ w.met, state ∉ w.queue → ∀ next, Step edges state next → next ∈ w.met := by
  refine ⟨unreachableStates_eq nodes edges, ?_, length_reachedStates_le nodes edges, ?_⟩
  · intro noInitial
    rw [unreachableStates_eq, List.filter_eq_self.2]
    intro n _
    have never : ¬Entered nodes edges n.id := by
      intro h
      obtain ⟨m, hm, initial, _⟩ := h
      exact noInitial m hm initial
    simp [never]
  · intro turns w
    obtain ⟨taken, reaches, _⟩ := Walk.reaches_after nodes edges turns
    refine ⟨Walk.ended_iff nodes edges turns, Walk.met_of_ended, reaches.distinct, reaches.entered, ?_⟩
    intro state hstate gone
    have takenOff : state ∈ taken := by
      rw [reaches.met_eq] at hstate
      exact (List.mem_append.1 hstate).resolve_right gone
    exact reaches.followed state takenOff

/-- A way in through a state that is no node, a state with a transition to
itself, and one that is listed twice and leads to the others only. -/
def detour : List Node × List Edge :=
  ([⟨"s", some ⟨none, some .initial⟩⟩, ⟨"t", none⟩, ⟨"u", none⟩, ⟨"u", some ⟨some "last", some .final⟩⟩],
   [⟨"a", "s", "x", none⟩, ⟨"b", "x", "t", none⟩, ⟨"c", "t", "t", none⟩, ⟨"d", "u", "s", none⟩])

theorem unreachableStates_exact_detour :
    unreachableStates detour.1 detour.2 = [⟨"u", "u"⟩, ⟨"u", "last"⟩] ∧
    reachedStates detour.1 detour.2 = ["s", "x", "t"] ∧
    (∀ n ∈ detour.1.tail, n.kind ≠ some .initial) ∧
    unreachableStates detour.1.tail detour.2 = detour.1.tail.map (·.ref) := by
  have noInitial : ∀ n ∈ detour.1.tail, n.kind ≠ some .initial := by decide
  have turns : Walk.after detour.1 detour.2 3 = ⟨["s", "x", "t"], []⟩ := by rfl
  have reached : reachedStates detour.1 detour.2 = ["s", "x", "t"] := by
    rw [← ((unreachableStates_exact detour.1 detour.2).2.2.2 3).2.1 (by rw [turns]), turns]
  have found : unreachableStates detour.1 detour.2 = [⟨"u", "u"⟩, ⟨"u", "last"⟩] := by
    rw [unreachableStates, reached]
    rfl
  exact ⟨found, reached, noInitial, (unreachableStates_exact detour.1.tail detour.2).2.1 noInitial⟩

end TransitionGuards
