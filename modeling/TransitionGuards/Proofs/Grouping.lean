import TransitionGuards.Proofs.Groups
import Mathlib.Data.List.Perm.Basic

/-
  Groups as they are made, one transition after another.

  A `Grouping` has the states that came up, each with its events and the transitions
  on them, and the place of every state among them. A transition goes to the place of
  its state, which is at the end if the state is new, and there behind the others on
  its event. At any time the states and the places are those of the transitions taken
  up so far (`Lists`): one more transition keeps it so (`Lists.add`), and so do
  many (`lists_ofEdges`). What comes out is `groups`, state by state
  (`groups_ofEdges`), with each transition in one group (`perm_transitions`).
-/

namespace TransitionGuards

/-- Events, with the transitions on each of them. -/
abbrev ByEvent := List (String × List Edge)

/-- The states that came up with their events, and where each of them stands. -/
structure Grouping where
  states : Array (String × ByEvent)
  places : Std.HashMap String Nat

namespace Grouping

def empty : Grouping := ⟨#[], ∅⟩

/-- Puts the transition behind the others on its event; a new event comes last. -/
def addToEvent (e : Edge) : ByEvent → ByEvent
  | [] => [(e.event, [e])]
  | (event, edges) :: rest =>
    if event = e.event then (event, edges ++ [e]) :: rest else (event, edges) :: addToEvent e rest

/-- The place of the state; a new state is given the next one. -/
def place (g : Grouping) (source : String) : Nat × Grouping :=
  match g.places[source]? with
  | some i => (i, g)
  | none => (g.states.size, ⟨g.states.push (source, []), g.places.insert source g.states.size⟩)

def add (g : Grouping) (e : Edge) : Grouping :=
  let (i, g) := g.place e.source
  { g with states := g.states.modify i fun s => (s.1, addToEvent e s.2) }

def ofEdges (edges : List Edge) : Grouping := edges.foldl add empty

def groups (g : Grouping) : List Group := g.states.toList.flatMap fun s => s.2.map fun t => ⟨s.1, t.1, t.2⟩

def transitions (g : Grouping) : List Edge := g.states.toList.flatMap fun s => s.2.flatMap (·.2)

/-! ## The events of one state -/

/-- The events as they first appear, each with all the transitions on it. -/
def byEvent (edges : List Edge) : ByEvent :=
  (edges.map (·.event)).eraseDups.map fun event => (event, edges.filter fun e => e.event == event)

variable {edges : List Edge} {e : Edge} {g : Grouping} {sources : List String}

theorem addToEvent_map {f : String → List Edge} : ∀ {events : List String}, events.Nodup →
    (e.event ∉ events → f e.event = []) →
    addToEvent e (events.map fun event => (event, f event)) =
      (if events.contains e.event then events else events ++ [e.event]).map fun event =>
        (event, if e.event == event then f event ++ [e] else f event)
  | [], _, fresh => by simp [addToEvent, fresh]
  | event :: rest, distinct, fresh => by
    obtain ⟨new, distinct⟩ := List.nodup_cons.1 distinct
    by_cases same : event = e.event
    · subst same
      -- the event is found, and none of the others is the same
      have others : ∀ event ∈ rest, (event, f event) = (event, if e.event == event then f event ++ [e] else f event) := by
        intro event h
        have different : e.event ≠ event := fun he => new (he ▸ h)
        simp [different]
      simp [addToEvent, List.map_congr_left others]
    · have ih := addToEvent_map distinct fun absent => fresh fun h => absent ((List.mem_cons.1 h).resolve_left (Ne.symm same))
      rw [List.map_cons, addToEvent, if_neg same, ih]
      by_cases old : e.event ∈ rest <;> simp [old, Ne.symm same]

theorem byEvent_concat (edges : List Edge) (e : Edge) : byEvent (edges ++ [e]) = addToEvent e (byEvent edges) := by
  have fresh : e.event ∉ (edges.map (·.event)).eraseDups → (edges.filter fun d => d.event == e.event) = [] := by
    intro absent
    rw [List.mem_eraseDups, List.mem_map] at absent
    refine List.filter_eq_nil_iff.2 fun d hd same => absent ⟨d, hd, eq_of_beq same⟩
  rw [byEvent, byEvent, addToEvent_map (nodup_eraseDups _) fresh, List.map_append, List.map_singleton, eraseDups_concat]
  have contains : (edges.map (·.event)).eraseDups.contains e.event = (edges.map (·.event)).contains e.event := by
    rw [Bool.eq_iff_iff, List.contains_iff_mem, List.contains_iff_mem, List.mem_eraseDups]
  rw [contains]
  refine List.map_congr_left fun event _ => ?_
  rw [List.filter_append, List.filter_singleton]
  cases e.event == event with
  | true => rfl
  | false => simp

/-! ## What holds at any time -/

/-- Whether the states are the given ones with the transitions from each of them,
and the places lead to them. -/
structure Lists (g : Grouping) (sources : List String) (edges : List Edge) : Prop where
  states : g.states.toList = sources.map fun source => (source, byEvent (edges.filter fun e => e.source == source))
  places : ∀ source, g.places[source]? = sources.idxOf? source

theorem Lists.map_states (h : g.Lists sources edges) : g.states.toList.map (·.1) = sources := by
  rw [h.states, List.map_map]
  exact List.map_id sources

/-- Taking the place of a state leaves the states that came up with the new one,
which stands at that place. -/
theorem Lists.place (h : g.Lists (edges.map (·.source)).eraseDups edges) (source : String) :
    (g.place source).2.Lists (edges.map (·.source) ++ [source]).eraseDups edges ∧
      (edges.map (·.source) ++ [source]).eraseDups[(g.place source).1]? = some source := by
  have found := h.places source
  unfold Grouping.place
  rw [eraseDups_concat]
  split
  · next i hi =>
    -- the state came up before, and its place leads to it
    rw [hi] at found
    have there := (idxOf?_eq_some_iff_getElem? (nodup_eraseDups _)).1 found.symm
    have old : source ∈ edges.map (·.source) := List.mem_eraseDups.1 (List.mem_of_getElem? there)
    rw [if_pos (List.contains_iff_mem.2 old)]
    exact ⟨h, there⟩
  · next hi =>
    -- the state is new: it gets the next place, and no transition has left it yet
    rw [hi] at found
    have new : source ∉ (edges.map (·.source)).eraseDups := List.idxOf?_eq_none_iff.1 found.symm
    have absent : source ∉ edges.map (·.source) := fun h => new (List.mem_eraseDups.2 h)
    rw [if_neg (fun h => absent (List.contains_iff_mem.1 h))]
    have size : g.states.size = (edges.map (·.source)).eraseDups.length := by
      rw [← h.map_states, List.length_map, Array.length_toList]
    have none : (edges.filter fun e => e.source == source) = [] := by
      refine List.filter_eq_nil_iff.2 fun e he same => absent ?_
      exact List.mem_map.2 ⟨e, he, eq_of_beq same⟩
    refine ⟨⟨?_, ?_⟩, ?_⟩
    · rw [Array.toList_push, h.states, List.map_append, List.map_singleton, none]
      rfl
    · intro other
      have places : ∀ b, g.places[b]? = ((edges.map (·.source)).eraseDups.idxOf? b).map id := by simpa using h.places
      rw [size]
      simpa using getElem?_insert_place places new other
    · rw [size]
      exact List.getElem?_concat_length

theorem Lists.add (h : g.Lists (edges.map (·.source)).eraseDups edges) (e : Edge) :
    (g.add e).Lists ((edges ++ [e]).map (·.source)).eraseDups (edges ++ [e]) := by
  obtain ⟨taken, there⟩ := h.place e.source
  rw [List.map_append, List.map_singleton]
  refine ⟨?_, taken.places⟩
  have distinct := nodup_eraseDups (edges.map (·.source) ++ [e.source])
  generalize (edges.map (·.source) ++ [e.source]).eraseDups = sources at taken there distinct
  show ((g.place e.source).2.states.modify (g.place e.source).1 _).toList = _
  rw [Array.toList_modify, taken.states]
  apply List.ext_getElem?
  intro j
  rw [List.getElem?_modify, List.getElem?_map, List.getElem?_map]
  cases hj : sources[j]? with
  | none => rfl
  | some source =>
    -- the place is that of the transition's state, and of no other
    have here : (g.place e.source).1 = j ↔ e.source = source := by
      constructor
      · intro same
        rw [same, hj] at there
        exact (Option.some.inj there).symm
      · intro same
        have inside : (g.place e.source).1 < sources.length := (List.getElem?_eq_some_iff.1 there).1
        exact (List.getElem?_inj inside distinct).1 (there.trans (same ▸ hj.symm))
    show some (if _ then (source, addToEvent e (byEvent _)) else (source, byEvent _)) = some (source, byEvent _)
    rw [List.filter_append, List.filter_singleton]
    by_cases same : e.source = source
    · rw [if_pos (here.2 same), beq_iff_eq.2 same, cond_true, byEvent_concat]
    · rw [if_neg (mt here.1 same), beq_eq_false_iff_ne.2 same, cond_false, List.append_nil]

theorem lists_empty : empty.Lists [] [] := ⟨rfl, fun _ => Std.HashMap.getElem?_empty⟩

/-- The transitions taken up so far. -/
theorem lists_ofEdges (edges : List Edge) : (ofEdges edges).Lists (edges.map (·.source)).eraseDups edges := by
  induction edges using List.reverseRecOn with
  | nil => exact lists_empty
  | append_singleton edges e ih =>
    rw [ofEdges, List.foldl_append]
    exact ih.add e

/-! ## What comes out -/

theorem groups_ofEdges (edges : List Edge) : (ofEdges edges).groups = TransitionGuards.groups edges := by
  rw [groups, (lists_ofEdges edges).states, List.flatMap_map]
  simp only [byEvent, List.map_map]
  rfl

/-- Every transition is in one group. -/
theorem perm_transitions (edges : List Edge) : (ofEdges edges).transitions.Perm edges := by
  rw [transitions, (lists_ofEdges edges).states, List.flatMap_map]
  have events (source : String) :
      ((byEvent (edges.filter fun e => e.source == source)).flatMap (·.2)).Perm (edges.filter fun e => e.source == source) := by
    rw [byEvent, List.flatMap_map]
    refine perm_flatMap_filter Edge.event (nodup_eraseDups _) fun e he => ?_
    exact List.mem_eraseDups.2 (List.mem_map_of_mem he)
  refine (List.Perm.flatMap_left _ fun source _ => events source).trans ?_
  refine perm_flatMap_filter Edge.source (nodup_eraseDups _) fun e he => ?_
  exact List.mem_eraseDups.2 (List.mem_map_of_mem he)

/-! ## The whole -/

/-- Whether the keys are those that occur, each of them once, in the order in which
they first occur. -/
structure FirstAppearances (occurring keys : List String) : Prop where
  nodup : keys.Nodup
  mem_iff : ∀ key, key ∈ keys ↔ key ∈ occurring
  ordered : keys.Pairwise fun a b => occurring.idxOf a < occurring.idxOf b

theorem firstAppearances_eraseDups (l : List String) : FirstAppearances l l.eraseDups :=
  ⟨nodup_eraseDups l, fun _ => List.mem_eraseDups, pairwise_idxOf_eraseDups l⟩

theorem firstAppearances_byEvent (edges : List Edge) :
    FirstAppearances (edges.map (·.event)) ((byEvent edges).map (·.1)) := by
  have keys : (byEvent edges).map (·.1) = (edges.map (·.event)).eraseDups := by
    rw [byEvent, List.map_map]
    exact List.map_id _
  rw [keys]
  exact firstAppearances_eraseDups _

theorem eq_of_mem_byEvent {t : String × List Edge} (ht : t ∈ byEvent edges) :
    t.2 = (edges.filter fun e => e.event == t.1) ∧ t.2 ≠ [] := by
  obtain ⟨event, hevent, rfl⟩ := List.mem_map.1 ht
  obtain ⟨e, he, rfl⟩ := List.mem_map.1 (List.mem_eraseDups.1 hevent)
  exact ⟨rfl, List.ne_nil_of_mem (List.mem_filter.2 ⟨he, beq_self_eq_true _⟩)⟩

theorem Lists.places_iff (h : g.Lists sources edges) (distinct : sources.Nodup) (source : String) (i : Nat) :
    g.places[source]? = some i ↔ ∃ inside : i < g.states.size, g.states[i].1 = source := by
  have states : sources[i]? = g.states[i]?.map (·.1) := by
    rw [← h.map_states, List.getElem?_map, Array.getElem?_toList]
  have there : sources[i]? = some source ↔ ∃ inside : i < g.states.size, g.states[i].1 = source := by
    rw [states, Option.map_eq_some_iff]
    constructor
    · rintro ⟨s, hs, rfl⟩
      obtain ⟨inside, rfl⟩ := Array.getElem?_eq_some_iff.1 hs
      exact ⟨inside, rfl⟩
    · rintro ⟨inside, rfl⟩
      exact ⟨_, Array.getElem?_eq_getElem inside, rfl⟩
  rw [← there, h.places]
  exact idxOf?_eq_some_iff_getElem? distinct

/-- Whatever transitions are taken up, the groups that come out are `groups`. The
states are those of the transitions as they first appear, and so are the events of
each state; an event has just the transitions from the state on it, in their order,
and at least one. All of them together are the transitions taken up, each once. A
place leads to a state exactly if the state stands there, and the place at which the
next transition is put is that of its state. -/
theorem ofEdges_exact (edges : List Edge) :
    let g := ofEdges edges
    g.groups = TransitionGuards.groups edges ∧
    FirstAppearances (edges.map (·.source)) (g.states.toList.map (·.1)) ∧
    (∀ s ∈ g.states.toList,
      FirstAppearances ((edges.filter fun e => e.source == s.1).map (·.event)) (s.2.map (·.1)) ∧
      ∀ t ∈ s.2, t.2 = (edges.filter fun e => e.source == s.1 && e.event == t.1) ∧ t.2 ≠ []) ∧
    g.transitions.Perm edges ∧
    (∀ source i, g.places[source]? = some i ↔ ∃ inside : i < g.states.size, g.states[i].1 = source) ∧
    ∀ source, (g.place source).2.states[(g.place source).1]?.map (·.1) = some source := by
  intro g
  have lists : g.Lists (edges.map (·.source)).eraseDups edges := lists_ofEdges edges
  refine ⟨groups_ofEdges edges, ?_, fun s hs => ?_, perm_transitions edges, ?_, fun source => ?_⟩
  · rw [lists.map_states]
    exact firstAppearances_eraseDups _
  · rw [lists.states] at hs
    obtain ⟨source, _, rfl⟩ := List.mem_map.1 hs
    refine ⟨firstAppearances_byEvent _, fun t ht => ?_⟩
    obtain ⟨same, nonempty⟩ := eq_of_mem_byEvent ht
    refine ⟨?_, nonempty⟩
    rw [same, List.filter_filter]
    simp only [Bool.and_comm]
  · exact lists.places_iff (nodup_eraseDups _)
  · obtain ⟨taken, there⟩ := lists.place source
    rw [← Array.getElem?_toList, ← List.getElem?_map, taken.map_states]
    exact there

/-- Transitions from two states in turn, one of them without an event. -/
def inTurn : List Edge :=
  [⟨"1", "a", "b", some { (default : EdgeData) with event := some "go" }⟩, ⟨"2", "b", "a", none⟩,
    ⟨"3", "a", "c", none⟩, ⟨"4", "a", "c", some { (default : EdgeData) with event := some "go" }⟩]

theorem ofEdges_exact_inTurn :
    ((ofEdges inTurn).groups.map fun g => (g.source, g.event, g.edges.map (·.id))) =
      [("a", "go", ["1", "4"]), ("a", "", ["3"]), ("b", "", ["2"])] ∧
    (ofEdges inTurn).transitions.Perm inTurn ∧
    ∃ i, (ofEdges inTurn).places["b"]? = some i := by
  obtain ⟨groups, states, _, perm, places, _⟩ := ofEdges_exact inTurn
  refine ⟨?_, perm, ?_⟩
  · rw [groups]
    decide +kernel
  · obtain ⟨s, hs, same⟩ := List.mem_map.1 ((states.mem_iff "b").2 (by decide))
    obtain ⟨i, inside, rfl⟩ := List.getElem_of_mem hs
    exact ⟨i, (places "b" i).2 ⟨inside, same⟩⟩

end Grouping

end TransitionGuards
