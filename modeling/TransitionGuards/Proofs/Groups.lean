import TransitionGuards.Machine.Group
import TransitionGuards.Proofs.Distinct
import Mathlib.Data.List.Nodup

/-
  Groups are the transitions from one state on one event.

  Every transition is in the group of its state and event, that group has all
  such transitions in their order, and no group is listed twice. Groups are
  listed as their states first appear, and as their events do within a state.
-/

namespace TransitionGuards

/-- The group of the transition: those from its state on its event. -/
def Edge.group (edges : List Edge) (e : Edge) : Group :=
  ⟨e.source, e.event, edges.filter fun d => d.source == e.source && d.event == e.event⟩

variable {edges : List Edge} {g : Group}

theorem mem_groupByEvent {source : String} :
    g ∈ groupByEvent source (edges.filter fun e => e.source == source) ↔
      ∃ e ∈ edges, e.source = source ∧ g = e.group edges := by
  have same (event : String) : (edges.filter fun e => e.source == source).filter (fun e => e.event == event) =
      edges.filter fun e => e.source == source && e.event == event := by
    rw [List.filter_filter]
    simp only [Bool.and_comm]
  simp only [groupByEvent, List.mem_map, List.mem_eraseDups, List.mem_filter, beq_iff_eq, same]
  constructor
  · intro h
    obtain ⟨_, ⟨e, ⟨he, rfl⟩, rfl⟩, rfl⟩ := h
    exact ⟨e, he, rfl, rfl⟩
  · intro h
    obtain ⟨e, he, rfl, rfl⟩ := h
    exact ⟨e.event, ⟨e, ⟨he, rfl⟩, rfl⟩, rfl⟩

/-- The groups are those of the transitions. -/
theorem mem_groups : g ∈ groups edges ↔ ∃ e ∈ edges, g = e.group edges := by
  simp only [groups, List.mem_flatMap, List.mem_eraseDups, List.mem_map, mem_groupByEvent]
  constructor
  · intro h
    obtain ⟨_, _, e, he, rfl, rfl⟩ := h
    exact ⟨e, he, rfl⟩
  · intro h
    obtain ⟨e, he, rfl⟩ := h
    exact ⟨e.source, ⟨e, he, rfl⟩, e, he, rfl, rfl⟩

theorem mem_group {e : Edge} (he : e ∈ edges) : e ∈ (e.group edges).edges := by
  apply List.mem_filter.2
  exact ⟨he, by simp⟩

theorem nodup_groupByEvent (source : String) (edges : List Edge) : (groupByEvent source edges).Nodup := by
  apply (nodup_eraseDups _).map
  intro event event' h
  exact congrArg Group.event h

/-- No group is listed twice. -/
theorem nodup_groups (edges : List Edge) : (groups edges).Nodup := by
  -- within a state the events differ, and between states the sources do
  rw [groups, List.nodup_flatMap]
  refine ⟨fun source _ => nodup_groupByEvent source _, (nodup_eraseDups _).imp fun {source source'} different => ?_⟩
  intro g hg hg'
  obtain ⟨_, _, rfl, rfl⟩ := mem_groupByEvent.1 hg
  obtain ⟨_, _, rfl, same⟩ := mem_groupByEvent.1 hg'
  exact different (congrArg Group.source same)

/-- Whether the first group comes before the second when states are taken as they
first appear in the list, and events as they first appear within their state. -/
def Group.Precedes (edges : List Edge) (g g' : Group) : Prop :=
  (edges.map (·.source)).idxOf g.source < (edges.map (·.source)).idxOf g'.source ∨
    g.source = g'.source ∧
      ((edges.filter fun e => e.source == g.source).map (·.event)).idxOf g.event <
        ((edges.filter fun e => e.source == g.source).map (·.event)).idxOf g'.event

/-- Groups are listed in the order of first appearance. -/
theorem precedes_groups (edges : List Edge) : (groups edges).Pairwise (Group.Precedes edges) := by
  rw [groups, List.pairwise_flatMap]
  constructor
  · intro source _
    refine List.pairwise_map.2 ((pairwise_idxOf_eraseDups _).imp fun {event event'} before => ?_)
    exact .inr ⟨rfl, before⟩
  · refine (pairwise_idxOf_eraseDups _).imp fun {source source'} before g hg g' hg' => ?_
    obtain ⟨_, _, rfl, rfl⟩ := mem_groupByEvent.1 hg
    obtain ⟨_, _, rfl, rfl⟩ := mem_groupByEvent.1 hg'
    exact .inl before

end TransitionGuards
