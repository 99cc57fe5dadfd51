import TransitionGuards.Machine.Report
import TransitionGuards.Proofs.Groups
import TransitionGuards.Proofs.Pairs

/-
  The overlaps in a report are the first ones of their groups.

  The backend may be any function here, and a pair on which it fails counts as
  disjoint. The pairs of a group are taken by the place of their first member and
  then by that of their second, and the first pair that is found to overlap makes
  the issue of the group (`firstOverlap_cases`). Groups without such a pair have
  no issue, and the others are reported as they first appear
  (`checkDeterminism_exact`). What a group reports is up to the transitions of
  that group, so transitions of other groups may be put in anywhere
  (`Insertion.group_eq`).
-/

namespace TransitionGuards

namespace Analyzer

def overlaps (a : Analyzer Id) (e₁ e₂ : Edge) : Bool := (a.checkPair e₁.guard e₂.guard).run.satisfiable

/-- The transitions with the text of the witness that the analyzer gives. -/
def overlap (a : Analyzer Id) (e₁ e₂ : Edge) : Overlap := ⟨e₁, e₂, (a.checkPair e₁.guard e₂.guard).run.model⟩

/-- Whether two transitions that are found to overlap stand at the two places of
the list, one before the other. -/
structure OverlapAt (a : Analyzer Id) (edges : List Edge) (p q : Nat) (e₁ e₂ : Edge) : Prop where
  first : edges[p]? = some e₁
  second : edges[q]? = some e₂
  inOrder : p < q
  found : a.overlaps e₁ e₂ = true

/-- Whether no two places at which an overlap is found come before these. -/
structure FirstOverlapAt (a : Analyzer Id) (edges : List Edge) (p q : Nat) (e₁ e₂ : Edge) : Prop where
  here : a.OverlapAt edges p q e₁ e₂
  least : ∀ p' q' e₁' e₂', a.OverlapAt edges p' q' e₁' e₂' → p < p' ∨ p = p' ∧ q ≤ q'

section
variable {a : Analyzer Id} {e e₁ e₂ : Edge} {rest : List Edge} {p q : Nat}

theorem OverlapAt.cons (h : a.OverlapAt rest p q e₁ e₂) : a.OverlapAt (e :: rest) (p + 1) (q + 1) e₁ e₂ where
  first := by rw [List.getElem?_cons_succ, h.first]
  second := by rw [List.getElem?_cons_succ, h.second]
  inOrder := Nat.succ_lt_succ h.inOrder
  found := h.found

theorem OverlapAt.cons_cases (h : a.OverlapAt (e :: rest) p q e₁ e₂) :
    (p = 0 ∧ ∃ q', q = q' + 1 ∧ rest[q']? = some e₂ ∧ a.overlaps e e₂ = true) ∨
    ∃ p' q', p = p' + 1 ∧ q = q' + 1 ∧ a.OverlapAt rest p' q' e₁ e₂ := by
  obtain ⟨first, second, inOrder, found⟩ := h
  obtain ⟨q, rfl⟩ := Nat.exists_eq_add_one_of_ne_zero (Nat.ne_of_gt (Nat.zero_lt_of_lt inOrder))
  rw [List.getElem?_cons_succ] at second
  cases p with
  | zero =>
    rw [List.getElem?_cons_zero] at first
    cases first
    exact .inl ⟨rfl, q, rfl, second, found⟩
  | succ p =>
    rw [List.getElem?_cons_succ] at first
    exact .inr ⟨p, q, rfl, rfl, first, second, Nat.lt_of_succ_lt_succ inOrder, found⟩

end

/-! ## The scan of a group -/

section
variable (a : Analyzer Id)

theorem overlapWith_run (e : Edge) : ∀ others : List Edge,
    (a.checks.overlapWith e others).run = (others.find? (a.overlaps e)).map (a.overlap e)
  | [] => rfl
  | other :: rest => by
    rw [Checks.overlapWith, Id.run_bind, List.find?_cons]
    show (if a.overlaps e other = true then pure (some (a.overlap e other)) else _ : Id (Option Overlap)).run = _
    cases a.overlaps e other with
    | true => rfl
    | false => exact overlapWith_run e rest

theorem firstOverlap_cases : ∀ edges : List Edge,
    ((a.checks.firstOverlap edges).run = none ∧ ∀ p q e₁ e₂, ¬a.OverlapAt edges p q e₁ e₂) ∨
    ∃ p q e₁ e₂, (a.checks.firstOverlap edges).run = some (a.overlap e₁ e₂) ∧ a.FirstOverlapAt edges p q e₁ e₂
  | [] => by
    refine .inl ⟨rfl, fun p q e₁ e₂ h => ?_⟩
    have := h.first
    simp at this
  | e :: rest => by
    rw [Checks.firstOverlap, Id.run_bind, overlapWith_run]
    cases scan : rest.find? (a.overlaps e) with
    | some e₂ =>
      obtain ⟨found, q, hq, rfl, before⟩ := List.find?_eq_some_iff_getElem.1 scan
      refine .inr ⟨0, q + 1, e, rest[q], rfl, ⟨rfl, ?_, Nat.succ_pos q, found⟩, ?_⟩
      · rw [List.getElem?_cons_succ, List.getElem?_eq_getElem hq]
      · intro p' q' e₁' e₂' h
        rcases h.cons_cases with ⟨rfl, q', rfl, second, found'⟩ | ⟨p', q', rfl, _, _⟩
        · -- the scan has passed over all places before `q`
          refine .inr ⟨rfl, Nat.succ_le_succ (Nat.le_of_not_lt fun earlier => ?_)⟩
          have passed := before q' earlier
          rw [List.getElem?_eq_getElem (Nat.lt_trans earlier hq)] at second
          rw [Option.some.inj second, found'] at passed
          cases passed
        · exact .inl (Nat.succ_pos p')
    | none =>
      have disjoint : ∀ other ∈ rest, a.overlaps e other = false := by
        simpa using List.find?_eq_none.1 scan
      -- `e` overlaps with no other, so every overlap stands one place further on
      have later {p q : Nat} {e₁ e₂ : Edge} (h : a.OverlapAt (e :: rest) p q e₁ e₂) :
          ∃ p' q', p = p' + 1 ∧ q = q' + 1 ∧ a.OverlapAt rest p' q' e₁ e₂ := by
        refine h.cons_cases.resolve_left fun ⟨_, q', _, second, found⟩ => ?_
        rw [disjoint e₂ (List.mem_of_getElem? second)] at found
        cases found
      rcases firstOverlap_cases rest with ⟨none, never⟩ | ⟨p, q, e₁, e₂, some, first⟩
      · refine .inl ⟨none, fun p q e₁ e₂ h => ?_⟩
        obtain ⟨p', q', _, _, inRest⟩ := later h
        exact never p' q' e₁ e₂ inRest
      · refine .inr ⟨p + 1, q + 1, e₁, e₂, some, first.here.cons, fun p' q' e₁' e₂' h => ?_⟩
        obtain ⟨p', q', rfl, rfl, inRest⟩ := later h
        have := first.least p' q' e₁' e₂' inRest
        omega

end

end Analyzer

/-! ## The entries of a report -/

/-- Whether the issue shows the first overlap of the group, with the targets and
the guards of its two transitions and the witness found for them. -/
def DeterminismIssue.Records (a : Analyzer Id) (g : Group) (i : DeterminismIssue) : Prop :=
  ∃ p q e₁ e₂, a.FirstOverlapAt g.edges p q e₁ e₂ ∧
    i = ⟨g.source, eventLabel g.event, [e₁.target, e₂.target], e₁.guard, e₂.guard,
      (a.checkPair e₁.guard e₂.guard).run.model⟩

theorem eachGroup_run {ι : Type} (check : Group → Id (Option ι)) : ∀ gs : List Group,
    (Checks.eachGroup check gs).run = gs.filterMap fun g => (check g).run
  | [] => rfl
  | g :: rest => by
    rw [Checks.eachGroup, Id.run_bind, Id.run_bind, Id.run_pure, eachGroup_run check rest, List.filterMap_cons]
    cases (check g).run <;> rfl

namespace Analyzer
variable (a : Analyzer Id)

/-- What the analyzer reports on the overlaps of a group. -/
def entry (g : Group) : Option DeterminismIssue := (a.checks.groupDeterminism g).run

/-- A group has an issue that shows its first overlap, or has no overlap. -/
theorem entry_cases (g : Group) : (a.entry g = none ∧ ∀ p q e₁ e₂, ¬a.OverlapAt g.edges p q e₁ e₂) ∨
    ∃ i, a.entry g = some i ∧ i.Records a g := by
  rw [entry, Checks.groupDeterminism, Id.run_bind, Id.run_pure]
  rcases a.firstOverlap_cases g.edges with ⟨scan, never⟩ | ⟨p, q, e₁, e₂, scan, first⟩
  · rw [scan]
    exact .inl ⟨rfl, never⟩
  · rw [scan]
    exact .inr ⟨_, rfl, p, q, e₁, e₂, first, rfl⟩

theorem records_of_entry {g : Group} {i : DeterminismIssue} (h : a.entry g = some i) : i.Records a g := by
  rcases a.entry_cases g with ⟨none, _⟩ | ⟨i', some, records⟩
  · rw [none] at h
    cases h
  · rw [some] at h
    cases h
    exact records

theorem isSome_entry_iff (g : Group) :
    (a.entry g).isSome = true ↔ ∃ p q e₁ e₂, a.OverlapAt g.edges p q e₁ e₂ := by
  rcases a.entry_cases g with ⟨none, never⟩ | ⟨i, some, p, q, e₁, e₂, first, _⟩
  · rw [none]
    exact ⟨nofun, fun ⟨p, q, e₁, e₂, h⟩ => absurd h (never p q e₁ e₂)⟩
  · rw [some]
    exact ⟨fun _ => ⟨p, q, e₁, e₂, first.here⟩, fun _ => rfl⟩

theorem checkDeterminism_run (edges : List Edge) :
    (a.checkDeterminism edges).run = (groups edges).filterMap a.entry := eachGroup_run _ _

end Analyzer

/-! ## Transitions of other groups -/

/-- Whether the second list is the first one with members of some kind put in
anywhere. -/
inductive Insertion {α : Type} (kind : α → Prop) : List α → List α → Prop where
  | nil : Insertion kind [] []
  | keep {l l' : List α} (b : α) (h : Insertion kind l l') : Insertion kind (b :: l) (b :: l')
  | insert {l l' : List α} (b : α) (new : kind b) (h : Insertion kind l l') : Insertion kind l (b :: l')

theorem Insertion.filter_eq {α : Type} {kind : α → Prop} {p : α → Bool} {l l' : List α} (h : Insertion kind l l')
    (apart : ∀ b, kind b → p b = false) : l'.filter p = l.filter p := by
  induction h with
  | nil => rfl
  | keep b _ ih => rw [List.filter_cons, List.filter_cons, ih]
  | insert b new _ ih => rw [List.filter_cons_of_neg (by simp [apart b new]), ih]

theorem Insertion.group_eq {edges edges' : List Edge} {e : Edge}
    (h : Insertion (fun d => ¬(d.source = e.source ∧ d.event = e.event)) edges edges') :
    e.group edges' = e.group edges := by
  rw [Edge.group, h.filter_eq fun d other => by simpa using other]
  rfl

/-- The issues of a report are those of the groups of a list of transitions, as
they first appear, by state and then by event. A group has an issue exactly if an
overlap is found at two of its places, and the issue shows the first overlap. It
is the same whatever transitions of other groups are put in. -/
theorem Analyzer.checkDeterminism_exact (a : Analyzer Id) :
    ∃ entry : Group → Option DeterminismIssue,
      (∀ edges, ∃ gs : List Group, gs.Pairwise (Group.Precedes edges) ∧
        (∀ g, g ∈ gs ↔ ∃ e ∈ edges, g = e.group edges) ∧
        (a.checkDeterminism edges).run = gs.filterMap entry) ∧
      (∀ g, (entry g).isSome = true ↔ ∃ p q e₁ e₂, a.OverlapAt g.edges p q e₁ e₂) ∧
      (∀ g i, entry g = some i → i.Records a g) ∧
      ∀ (edges edges' : List Edge) (e : Edge),
        Insertion (fun d => ¬(d.source = e.source ∧ d.event = e.event)) edges edges' →
        entry (e.group edges') = entry (e.group edges) := by
  refine ⟨a.entry, fun edges => ?_, a.isSome_entry_iff, fun g i => a.records_of_entry, fun edges edges' e h => ?_⟩
  · exact ⟨groups edges, precedes_groups edges, fun g => mem_groups, a.checkDeterminism_run edges⟩
  · rw [h.group_eq]

/-- A transition from `s` on `go` for the values of a field that the comparison
allows. -/
def going (target : String) (comparator : Comparator) (value : Int64) : Edge :=
  ⟨target, "s", target, some ⟨some "go", none, none, some true, some [.of "n" comparator (.integer value)]⟩⟩

/-- Three transitions of one group, of which the first and the last overlap. -/
def threeWays : List Edge := [going "a" .gt 3, going "b" .le 3, going "c" .gt 5]

/-- The same among transitions from another state or without an event. -/
def interleaved : List Edge :=
  [⟨"x", "r", "s", none⟩, going "a" .gt 3, ⟨"y", "s", "r", none⟩, going "b" .le 3, ⟨"z", "r", "r", none⟩, going "c" .gt 5]

theorem Analyzer.checkDeterminism_exact_interleaved :
    Insertion (fun d => ¬(d.source = "s" ∧ d.event = "go")) threeWays interleaved ∧
    ∃ i ∈ ((builtin .default .nominal).checkDeterminism interleaved).run,
      i.Records (builtin .default .nominal) ((going "a" .gt 3).group threeWays) := by
  have inserted : Insertion (fun d => ¬(d.source = "s" ∧ d.event = "go")) threeWays interleaved :=
    .insert _ (by decide) (.keep _ (.insert _ (by decide) (.keep _ (.insert _ (by decide) (.keep _ .nil)))))
  have found : (builtin .default .nominal).overlaps (going "a" .gt 3) (going "c" .gt 5) = true := by cbv
  have overlap : (builtin .default .nominal).OverlapAt ((going "a" .gt 3).group threeWays).edges 0 2
      (going "a" .gt 3) (going "c" .gt 5) := ⟨rfl, rfl, Nat.zero_lt_two, found⟩
  obtain ⟨entry, report, reports, records, insertion⟩ := checkDeterminism_exact (builtin .default .nominal)
  obtain ⟨i, some⟩ := Option.isSome_iff_exists.1 ((reports _).2 ⟨_, _, _, _, overlap⟩)
  obtain ⟨gs, _, members, run⟩ := report interleaved
  have listed : (going "a" .gt 3).group interleaved ∈ gs := (members _).2 ⟨_, by simp [interleaved], rfl⟩
  refine ⟨inserted, i, ?_, records _ _ some⟩
  rw [run, List.mem_filterMap]
  exact ⟨_, listed, (insertion _ _ _ inserted).trans some⟩

end TransitionGuards
