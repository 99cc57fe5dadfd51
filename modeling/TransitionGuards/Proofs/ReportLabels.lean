import TransitionGuards.Proofs.EdgeOrder

/-
  How often a report shows the same state and event.

  An entry stands for one group of transitions, but it names the event as
  `eventLabel` does, and an event that is spelled like the label of the empty one is
  shown like it. So two groups of a state may look alike, no more than two, and only
  if the state is left both without an event and on one that is so spelled
  (`count_label`).

  This holds of any backend. Its monad may do what it likes, so what is shown is
  the property of whatever the analysis returns (`Returns`).
-/

namespace TransitionGuards

/-! ## What computations return -/

/-- Whether what the computation returns has the property, whatever else it does. -/
def Returns {m : Type → Type} [Functor m] {α : Type} (p : α → Prop) (x : m α) : Prop :=
  ∃ y : m { a : α // p a }, Subtype.val <$> y = x

namespace Returns
variable {m : Type → Type} [Monad m] [LawfulMonad m] {α β : Type} {p : α → Prop} {q : β → Prop} {x : m α}

theorem pure {a : α} (h : p a) : Returns p (Pure.pure a : m α) := ⟨Pure.pure ⟨a, h⟩, map_pure ..⟩

/-- Anything is returned by a computation of which nothing is known. -/
theorem any (x : m α) : Returns (fun _ => True) x := by
  refine ⟨(fun a => ⟨a, trivial⟩) <$> x, ?_⟩
  rw [← comp_map]
  exact id_map x

theorem bind {f : α → m β} (first : Returns p x) (more : ∀ a, p a → Returns q (f a)) : Returns q (x >>= f) := by
  obtain ⟨y, rfl⟩ := first
  choose z hz using fun a : { a : α // p a } => more a.1 a.2
  refine ⟨y >>= z, ?_⟩
  rw [map_bind, bind_map_left]
  simp only [hz]

theorem imp {p' : α → Prop} (h : Returns p x) (weaker : ∀ a, p a → p' a) : Returns p' x := by
  rw [← bind_pure x]
  exact h.bind fun a ha => pure (weaker a ha)

theorem run {x : Id α} (h : Returns p x) : p x.run := by
  obtain ⟨y, rfl⟩ := h
  exact y.run.2

end Returns

/-! ## Events and their labels -/

theorem eventLabel_cases (event : String) : eventLabel event = event ∨ event = "" ∧ eventLabel event = "(empty)" := by
  unfold eventLabel
  split
  · next empty => exact .inr ⟨String.isEmpty_iff.1 empty, rfl⟩
  · exact .inl rfl

/-- Whether the state is left without an event, and also on an event that is
spelled like the label for none. -/
def MixesEvents (edges : List Edge) (state : String) : Prop :=
  (∃ e ∈ edges, e.source = state ∧ e.event = "") ∧ ∃ e ∈ edges, e.source = state ∧ e.event = "(empty)"

/-- Whether the labels are those of different groups: a label that is repeated is
there twice, for the two events of a state that look alike. -/
structure MarksGroups (edges : List Edge) (labels : List (String × String)) : Prop where
  groups : ∃ gs : List Group, gs.Sublist (groups edges) ∧ labels = gs.map Group.label
  repeated : ∀ l, 1 < labels.count l → labels.count l = 2 ∧ l.2 = "(empty)" ∧ MixesEvents edges l.1
  nodup : (∀ state, ¬MixesEvents edges state) → labels.Nodup

section
variable {edges : List Edge} {gs : List Group}

theorem exists_edge_of_mem_groups {g : Group} (hg : g ∈ groups edges) :
    ∃ e ∈ edges, e.source = g.source ∧ e.event = g.event := by
  obtain ⟨e, he, rfl⟩ := mem_groups.1 hg
  exact ⟨e, he, rfl, rfl⟩

theorem eq_of_mem_groups {g g' : Group} (hg : g ∈ groups edges) (hg' : g' ∈ groups edges) (source : g.source = g'.source)
    (event : g.event = g'.event) : g = g' := by
  rw [← Group.among_eq_self hg, ← Group.among_eq_self hg', Group.among, Group.among, source, event]

/-- The events of the groups that have the label. -/
def eventsShownAs (l : String × String) (gs : List Group) : List String :=
  (gs.filter fun g => g.label == l).map (·.event)

variable {l : String × String}

theorem length_eventsShownAs : (eventsShownAs l gs).length = (gs.map Group.label).count l := by
  rw [eventsShownAs, List.length_map, ← List.countP_eq_length_filter, List.count, List.countP_map]
  rfl

variable (sub : gs.Sublist (groups edges))
include sub

theorem mem_eventsShownAs {event : String} (h : event ∈ eventsShownAs l gs) :
    eventLabel event = l.2 ∧ ∃ e ∈ edges, e.source = l.1 ∧ e.event = event := by
  obtain ⟨g, hg, rfl⟩ := List.mem_map.1 h
  obtain ⟨listed, label⟩ := List.mem_filter.1 hg
  obtain rfl := eq_of_beq label
  exact ⟨rfl, exists_edge_of_mem_groups (sub.subset listed)⟩

theorem nodup_eventsShownAs : (eventsShownAs l gs).Nodup := by
  refine (((nodup_groups edges).sublist sub).filter _).map_on fun g hg g' hg' same => ?_
  obtain ⟨listed, label⟩ := List.mem_filter.1 hg
  obtain ⟨listed', label'⟩ := List.mem_filter.1 hg'
  have source := congrArg Prod.fst ((eq_of_beq label).trans (eq_of_beq label').symm)
  exact eq_of_mem_groups (sub.subset listed) (sub.subset listed') source same

/-- Groups with one label are of one state, and their events are the label and
none at all. -/
theorem count_label (more : 1 < (gs.map Group.label).count l) :
    (gs.map Group.label).count l = 2 ∧ l.2 = "(empty)" ∧ MixesEvents edges l.1 := by
  have events : eventsShownAs l gs ⊆ [l.2, ""] := by
    intro event hevent
    obtain same | ⟨none, _⟩ := eventLabel_cases event
    · rw [← (mem_eventsShownAs sub hevent).1, same]
      exact List.mem_cons_self ..
    · rw [none]
      exact List.mem_cons_of_mem _ (List.mem_singleton_self _)
  rw [← length_eventsShownAs] at more ⊢
  -- two different events among these two are both of them
  have both := (List.subperm_of_subset (nodup_eventsShownAs sub) events).perm_of_length_le more
  have shown {event : String} (h : event ∈ [l.2, ""]) := mem_eventsShownAs sub (both.mem_iff.2 h)
  obtain ⟨empty, without⟩ := shown (List.mem_cons_of_mem _ (List.mem_singleton_self _))
  obtain ⟨_, spelled⟩ := shown (List.mem_cons_self ..)
  have empty : l.2 = "(empty)" := empty.symm
  rw [empty] at spelled
  exact ⟨both.length_eq, empty, without, spelled⟩

theorem marksGroups_of_sublist : MarksGroups edges (gs.map Group.label) where
  groups := ⟨gs, sub, rfl⟩
  repeated _ := count_label sub
  nodup unmixed := by
    refine List.nodup_iff_count_le_one.2 fun l => ?_
    by_contra more
    exact unmixed l.1 (count_label sub (Nat.lt_of_not_le more)).2.2

end

/-! ## Reports -/

namespace Checks
variable {m : Type → Type} [Monad m] [LawfulMonad m] {ι : Type} {check : Group → m (Option ι)}
  {label : ι → String × String}

/-- Where the issue of a group shows the group's label, the issues of a list of
groups show the labels of some of them, in order. -/
theorem eachGroup_labels (named : ∀ g, Returns (fun issue => ∀ i ∈ issue, label i = g.label) (check g)) :
    ∀ gs : List Group, Returns (fun issues => ∃ flagged : List Group, flagged.Sublist gs ∧ issues.map label = flagged.map Group.label)
      (eachGroup check gs)
  | [] => .pure ⟨[], .refl _, rfl⟩
  | g :: rest => by
    refine (named g).bind fun issue shown => (eachGroup_labels named rest).bind fun issues more => .pure ?_
    obtain ⟨flagged, sub, labels⟩ := more
    cases issue with
    | none => exact ⟨flagged, sub.cons g, labels⟩
    | some i =>
      refine ⟨g :: flagged, sub.cons_cons g, ?_⟩
      rw [List.map_cons, ← shown i rfl, ← labels]
      rfl

theorem eachGroup_marks (named : ∀ g, Returns (fun issue => ∀ i ∈ issue, label i = g.label) (check g))
    (edges : List Edge) :
    Returns (fun issues => MarksGroups edges (issues.map label)) (eachGroup check (groups edges)) := by
  refine (eachGroup_labels named _).imp fun issues labels => ?_
  obtain ⟨flagged, sub, labels⟩ := labels
  rw [labels]
  exact marksGroups_of_sublist sub

theorem groupDeterminism_label (c : Checks m) (g : Group) :
    Returns (fun issue => ∀ i ∈ issue, i.label = g.label) (c.groupDeterminism g) := by
  refine (Returns.any _).bind fun overlap _ => .pure fun i hi => ?_
  obtain ⟨o, _, rfl⟩ := Option.map_eq_some_iff.1 hi
  rfl

theorem groupCompleteness_label (c : Checks m) (declared : List Variable) (g : Group) :
    Returns (fun issue => ∀ i ∈ issue, i.label = g.label) (c.groupCompleteness declared g) := by
  refine (Returns.any _).bind fun verdict _ => .pure fun i hi => ?_
  split at hi
  · cases hi
  · cases hi
    rfl

end Checks

/-- The entries of a report on determinism, and those of a report on completeness,
show the states and events of different groups. They differ unless a state is left
without an event and on one spelled like the label for none; the two groups may then
look alike, and no others do. -/
theorem Analyzer.issues_mark_groups {m : Type → Type} [Monad m] [LawfulMonad m] (a : Analyzer m) (edges : List Edge)
    (declared : List Variable) :
    Returns (fun issues => MarksGroups edges (issues.map (·.label))) (a.checkDeterminism edges) ∧
    Returns (fun issues => MarksGroups edges (issues.map (·.label))) (a.checkCompleteness edges declared) :=
  ⟨Checks.eachGroup_marks a.checks.groupDeterminism_label edges,
    Checks.eachGroup_marks (a.checks.groupCompleteness_label declared) edges⟩

/-- Transitions without an event and on one that is spelled like the label for
none, for the positive values of a field and for the others. -/
def lookalike (source source' : String) : List Edge :=
  [⟨"1", source, "a", some ⟨none, none, none, some true, some [.of "n" .gt (.integer 0)]⟩⟩,
    ⟨"2", source', "b", some ⟨some "(empty)", none, none, some true, some [.of "n" .lt (.integer 1)]⟩⟩]

/-- From two states, they are told apart. -/
theorem Analyzer.issues_mark_groups_apart :
    ((builtin .default .nominal).checkCompleteness (lookalike "r" "s") []).run.map (·.label) =
      [("r", "(empty)"), ("s", "(empty)")] ∧
    (((builtin .default .nominal).checkCompleteness (lookalike "r" "s") []).run.map (·.label)).Nodup := by
  have unmixed : ∀ state, ¬MixesEvents (lookalike "r" "s") state := by
    rintro state ⟨⟨e, he, rfl, none⟩, e', he', same, spelled⟩
    simp only [lookalike, List.mem_cons, List.not_mem_nil, or_false] at he he'
    obtain rfl | rfl := he <;> obtain rfl | rfl := he'
    · exact absurd spelled (by decide)
    · exact absurd same (by decide)
    · exact absurd none (by decide)
    · exact absurd none (by decide)
  have marks := (issues_mark_groups (builtin .default .nominal) (lookalike "r" "s") []).2.run
  exact ⟨by cbv, marks.nodup unmixed⟩

/-- From one state, they are not: one entry says that no transition on the event is
possible for zero, the other that none is for one. -/
theorem Analyzer.completeness_shows_twice :
    ((builtin .default .nominal).checkCompleteness (lookalike "s" "s") []).run =
      [⟨"s", "(empty)", some "[field_n = 0]"⟩, ⟨"s", "(empty)", some "[field_n = 1]"⟩] := by
  cbv

end TransitionGuards
