import TransitionGuards.Proofs.Groups
import TransitionGuards.Proofs.QueryRun

/-
  Reports on machines are sound, and exact where no query fell back.

  An issue shows two transitions of one group that are possible at once, or a
  gap that a group leaves, with the text of a witness. A group without an issue
  has no overlap and no gap if the queries of the run noted no message. The
  statements follow the scans: one pair, the pairs of one transition, the pairs
  of a group, the groups in order.
-/

namespace TransitionGuards

/-- Whether the guards of both transitions hold. -/
def Edge.Clash (precedence : Precedence) (e₁ e₂ : Edge) (σ : Valuation) : Prop :=
  Guard.BothHold precedence e₁.guard e₂.guard σ

/-! ## Overlaps -/

/-- What a scan of the pairs of `e` with others returns. -/
def OverlapWith (precedence : Precedence) (e : Edge) (others : List Edge) : Option Overlap → List String → Prop
  | some o, _ => o.first = e ∧ o.second ∈ others ∧ Witnessed o.model (e.Clash precedence o.second)
  | none, messages => messages = [] → ∀ other ∈ others, ¬∃ σ, e.Clash precedence other σ

/-- What a scan of all pairs returns. -/
def FirstOverlap (precedence : Precedence) (edges : List Edge) : Option Overlap → List String → Prop
  | some o, _ => [o.first, o.second].Sublist edges ∧ Witnessed o.model (o.first.Clash precedence o.second)
  | none, messages => messages = [] → edges.Pairwise fun e₁ e₂ => ¬∃ σ, e₁.Clash precedence e₂ σ

section
variable {config : Config}

theorem yields_overlapWith (e : Edge) : ∀ others : List Edge,
    Yields ((Analyzer.timed config).checks.overlapWith e others)
      ((Analyzer.timed config).checks.watched.overlapWith e others) (OverlapWith config.precedence e others)
  | [] => .done fun _ => nofun
  | other :: rest => by
    simp only [Checks.overlapWith]
    refine (Analyzer.yields_pair e.guard other.guard).andThen ?_
    intro verdict new ⟨right, hnew⟩
    cases sat : verdict.satisfiable with
    | true => exact .done ⟨rfl, List.mem_cons_self .., right.witnessed sat⟩
    | false =>
      refine (yields_overlapWith e rest).mono ?_
      intro found more h
      cases found with
      | some o => exact ⟨h.1, List.mem_cons_of_mem _ h.2.1, h.2.2⟩
      | none =>
        intro silent
        -- a fallback on this pair would have left a message
        obtain ⟨first, silent⟩ := List.append_eq_nil_iff.1 silent
        have answered : verdict.error = none := Option.toList_eq_nil_iff.1 (hnew.symm.trans first)
        exact List.forall_mem_cons.2 ⟨right.never sat answered, h silent⟩

theorem yields_firstOverlap : ∀ edges : List Edge,
    Yields ((Analyzer.timed config).checks.firstOverlap edges)
      ((Analyzer.timed config).checks.watched.firstOverlap edges) (FirstOverlap config.precedence edges)
  | [] => .done fun _ => .nil
  | e :: rest => by
    simp only [Checks.firstOverlap]
    refine (yields_overlapWith e rest).andThen ?_
    intro overlap new scanned
    cases overlap with
    | some o =>
      obtain ⟨he, hmem, witnessed⟩ := scanned
      refine .done ⟨?_, ?_⟩
      · rw [he]
        exact (List.singleton_sublist.2 hmem).cons_cons e
      · rw [he]
        exact witnessed
    | none =>
      -- nothing overlaps with `e`, provided that no message came up among its pairs
      refine (yields_firstOverlap rest).mono ?_
      intro found more h
      cases found with
      | some o => exact ⟨h.1.cons e, h.2⟩
      | none =>
        intro silent
        obtain ⟨first, silent⟩ := List.append_eq_nil_iff.1 silent
        exact .cons (scanned first) (h silent)

end

/-! ## Groups -/

/-- Whether the issue shows two transitions of the group whose guards overlap. -/
structure DeterminismIssue.Shows (precedence : Precedence) (g : Group) (i : DeterminismIssue) : Prop where
  state : i.state = g.source
  event : i.event = eventLabel g.event
  overlap : ∃ e₁ e₂, [e₁, e₂].Sublist g.edges ∧ i.targets = [e₁.target, e₂.target] ∧
    i.guard₁ = e₁.guard ∧ i.guard₂ = e₂.guard ∧ Witnessed i.counterExample (e₁.Clash precedence e₂)

/-- Whether no transition of the group is possible, with values in the declared
bounds. -/
def Group.Gap (precedence : Precedence) (declared : List Variable) (g : Group) (σ : Valuation) : Prop :=
  IsGap precedence (g.edges.map (·.guard)) declared σ

/-- Whether the issue shows a gap that the group leaves. -/
structure CompletenessIssue.Shows (precedence : Precedence) (declared : List Variable) (g : Group)
    (i : CompletenessIssue) : Prop where
  state : i.state = g.source
  event : i.event = eventLabel g.event
  gap : Witnessed i.gapModel (g.Gap precedence declared)

/-- What is found about the overlaps of a group. -/
def OverlapFinding (precedence : Precedence) (g : Group) : Option DeterminismIssue → List String → Prop
  | some i, _ => i.Shows precedence g
  | none, messages => messages = [] → g.edges.Pairwise fun e₁ e₂ => ¬∃ σ, e₁.Clash precedence e₂ σ

/-- What is found about the gaps of a group. -/
def GapFinding (precedence : Precedence) (declared : List Variable) (g : Group) :
    Option CompletenessIssue → List String → Prop
  | some i, _ => i.Shows precedence declared g
  | none, messages => messages = [] → ¬∃ σ, g.Gap precedence declared σ

section
variable {config : Config}

theorem yields_groupDeterminism (g : Group) :
    Yields ((Analyzer.timed config).checks.groupDeterminism g)
      ((Analyzer.timed config).checks.watched.groupDeterminism g) (OverlapFinding config.precedence g) := by
  simp only [Checks.groupDeterminism]
  refine (yields_firstOverlap g.edges).andThen ?_
  intro overlap new h
  apply Yields.done
  rw [List.append_nil]
  cases overlap with
  | some o => exact ⟨rfl, rfl, o.first, o.second, h.1, rfl, rfl, rfl, h.2⟩
  | none => exact h

theorem yields_groupCompleteness {declared : List Variable} {g : Group} (transitions : g.edges ≠ []) :
    Yields ((Analyzer.timed config).checks.groupCompleteness declared g)
      ((Analyzer.timed config).checks.watched.groupCompleteness declared g)
      (GapFinding config.precedence declared g) := by
  simp only [Checks.groupCompleteness]
  refine (Analyzer.yields_complete (g.edges.map (·.guard)) declared).andThen ?_
  intro verdict new ⟨right, hnew⟩
  apply Yields.done
  rw [List.append_nil]
  cases complete : verdict.complete with
  | true =>
    intro silent
    have answered : verdict.error = none := Option.toList_eq_nil_iff.1 (hnew.symm.trans silent)
    exact right.never complete answered (by simpa using transitions)
  | false => exact ⟨rfl, rfl, right.witnessed complete⟩

/-- The groups are looked at one after another, each with messages of its
own. -/
theorem yields_eachGroup {ι : Type} {check : Group → StateM Clocks (Option ι)} {watched : Group → Watched (Option ι)}
    {post : Group → Option ι → List String → Prop} : ∀ {gs : List Group}, gs.Nodup →
      (∀ g ∈ gs, Yields (check g) (watched g) (post g)) →
      Yields (Checks.eachGroup check gs) (Checks.eachGroup watched gs) fun issues messages =>
        ∃ issue : Group → Option ι, issues = gs.filterMap issue ∧
          ∀ g ∈ gs, ∃ part, part ⊆ messages ∧ post g (issue g) part
  | [], _, _ => .done ⟨fun _ => none, rfl, nofun⟩
  | g :: rest, distinct, each => by
    obtain ⟨new, distinct⟩ := List.nodup_cons.1 distinct
    rw [Checks.eachGroup, Checks.eachGroup]
    refine (each g (List.mem_cons_self ..)).andThen ?_
    intro first part hfirst
    refine (yields_eachGroup distinct fun g' hg' => each g' (List.mem_cons_of_mem _ hg')).andThen ?_
    intro issues more ⟨issue, hissues, hrest⟩
    -- the first group is not among the rest, whose issues stay as they are
    classical
    refine .done ⟨Function.update issue g first, ?_, ?_⟩
    · have same : rest.filterMap (Function.update issue g first) = rest.filterMap issue := by
        apply List.filterMap_congr
        intro g' hg'
        have other : g' ≠ g := by
          intro same
          exact new (same ▸ hg')
        exact Function.update_of_ne other ..
      rw [List.filterMap_cons, Function.update_self, same, ← hissues]
      cases first <;> rfl
    · rw [List.append_nil]
      intro g' hg'
      by_cases h : g' = g
      · rw [h, Function.update_self]
        exact ⟨part, List.subset_append_left .., hfirst⟩
      · obtain ⟨part', sub, hpost⟩ := hrest g' ((List.mem_cons.1 hg').resolve_left h)
        rw [Function.update_of_ne h]
        exact ⟨part', List.Subset.trans sub (List.subset_append_right ..), hpost⟩

/-! ## The report -/

/-- Whether exactly one transition of the group fires on values in the declared
bounds. -/
def Group.FiresOnce (precedence : Precedence) (declared : List Variable) (g : Group) : Prop :=
  ∀ σ : Valuation, (∀ v ∈ declared, v.admits (σ v.name) = true) →
    g.edges.countP (fun e => e.guard.holds precedence σ) = 1

/-- A group without overlaps and gaps fires once: overlaps are what two
transitions make, and a gap is where none is. -/
theorem Group.firesOnce {precedence : Precedence} {declared : List Variable} {g : Group}
    (exclusive : g.edges.Pairwise fun e₁ e₂ => ¬∃ σ, e₁.Clash precedence e₂ σ)
    (covered : ¬∃ σ, g.Gap precedence declared σ) : g.FiresOnce precedence declared := by
  intro σ within
  -- at most one because no two guards hold together, at least one because this is no gap
  apply countP_eq_one
  · exact exclusive.imp fun {e₁ e₂} never both => never ⟨σ, both⟩
  · by_contra none
    refine covered ⟨σ, within, List.forall_mem_map.2 fun e he => ?_⟩
    exact eq_false_of_ne_true fun holds => none ⟨e, he, holds⟩

/-- What a run finds out about a group: issues are genuine, and without
messages the lack of an issue means that there is none to find. -/
structure Group.Findings (precedence : Precedence) (declared : List Variable) (messages : List String) (g : Group)
    (issue : Option DeterminismIssue) (gap : Option CompletenessIssue) : Prop where
  genuineOverlap : ∀ i, issue = some i → i.Shows precedence g
  genuineGap : ∀ i, gap = some i → i.Shows precedence declared g
  exclusive : messages = [] → issue = none → g.edges.Pairwise fun e₁ e₂ => ¬∃ σ, e₁.Clash precedence e₂ σ
  covered : messages = [] → gap = none → ¬∃ σ, g.Gap precedence declared σ
  firesOnce : messages = [] → issue = none → gap = none → g.FiresOnce precedence declared

theorem Group.findings {precedence : Precedence} {declared : List Variable} {messages part part' : List String}
    {g : Group} {issue : Option DeterminismIssue} {gap : Option CompletenessIssue}
    (sub : part ⊆ messages) (overlaps : OverlapFinding precedence g issue part)
    (sub' : part' ⊆ messages) (gaps : GapFinding precedence declared g gap part') :
    g.Findings precedence declared messages issue gap := by
  have exclusive : messages = [] → issue = none →
      g.edges.Pairwise fun e₁ e₂ => ¬∃ σ, e₁.Clash precedence e₂ σ := by
    intro silent noIssue
    subst silent noIssue
    exact overlaps (List.subset_nil.1 sub)
  have covered : messages = [] → gap = none → ¬∃ σ, g.Gap precedence declared σ := by
    intro silent noGap
    subst silent noGap
    exact gaps (List.subset_nil.1 sub')
  refine ⟨?_, ?_, exclusive, covered, fun silent h h' => firesOnce (exclusive silent h) (covered silent h')⟩
  · intro i found
    subst found
    exact overlaps
  · intro i found
    subst found
    exact gaps

theorem yields_analyze (machine : Machine) :
    Yields ((Analyzer.timed config).checks.analyze machine) ((Analyzer.timed config).checks.watched.analyze machine)
      fun report messages => ∃ (issue : Group → Option DeterminismIssue) (gap : Group → Option CompletenessIssue),
        report.determinism = (groups machine.edges).filterMap issue ∧
        report.completeness = (groups machine.edges).filterMap gap ∧
        ∀ g ∈ groups machine.edges,
          g.Findings config.precedence machine.declared messages (issue g) (gap g) := by
  have transitions : ∀ g ∈ groups machine.edges, g.edges ≠ [] := by
    intro g hg
    obtain ⟨e, he, rfl⟩ := mem_groups.1 hg
    exact List.ne_nil_of_mem (mem_group he)
  have distinct := nodup_groups machine.edges
  simp only [Checks.analyze, Checks.determinism, Checks.completeness]
  refine (yields_eachGroup distinct fun g _ => yields_groupDeterminism g).andThen ?_
  intro determinism new ⟨issue, hissue, overlaps⟩
  refine (yields_eachGroup distinct fun g hg => yields_groupCompleteness (transitions g hg)).andThen ?_
  intro completeness more ⟨gap, hgap, gaps⟩
  -- each group has its part of the messages of both scans
  refine .done ⟨issue, gap, hissue, hgap, fun g hg => ?_⟩
  obtain ⟨part, sub, overlap⟩ := overlaps g hg
  obtain ⟨part', sub', gap⟩ := gaps g hg
  rw [List.append_nil]
  exact Group.findings (List.subset_append_of_subset_left _ sub) overlap
    (List.subset_append_of_subset_right _ sub') gap

end

/-- Every issue of a report is genuine, whatever the settings and the clocks: it
shows two transitions of one group that are possible at once, or a gap that a
group leaves. If no query of the run fell back, a group without an overlap in
the report has none, one without a gap has none, and one without either fires
exactly one transition on all values in the declared bounds. -/
theorem Analyzer.analyze_exact (config : Config) (clocks : Clocks) (machine : Machine) :
    let a := timed config
    let report := ((a.analyze machine).run clocks).1
    let watched := (((a.checks.watched.analyze machine).run []).run clocks).1
    watched.1 = report ∧
    ∃ (issue : Group → Option DeterminismIssue) (gap : Group → Option CompletenessIssue),
      (∀ i, i ∈ report.determinism ↔ ∃ e ∈ machine.edges, issue (e.group machine.edges) = some i) ∧
      (∀ i, i ∈ report.completeness ↔ ∃ e ∈ machine.edges, gap (e.group machine.edges) = some i) ∧
      ∀ e ∈ machine.edges, (e.group machine.edges).Findings config.precedence machine.declared watched.2
        (issue (e.group machine.edges)) (gap (e.group machine.edges)) := by
  -- the groups are those of the transitions, so an issue of a group is one of a transition
  have reported {ι : Type} (issue : Group → Option ι) (i : ι) :
      i ∈ (groups machine.edges).filterMap issue ↔ ∃ e ∈ machine.edges, issue (e.group machine.edges) = some i := by
    rw [List.mem_filterMap]
    constructor
    · intro h
      obtain ⟨g, hg, h⟩ := h
      obtain ⟨e, he, rfl⟩ := mem_groups.1 hg
      exact ⟨e, he, h⟩
    · intro h
      obtain ⟨e, he, h⟩ := h
      exact ⟨_, mem_groups.2 ⟨e, he, rfl⟩, h⟩
  intro a report watched
  have yields : Yields (a.checks.analyze machine) (a.checks.watched.analyze machine) _ := yields_analyze machine
  obtain ⟨r, rest, messages, run, watchedRun, issue, gap, hissue, hgap, findings⟩ := yields clocks []
  have hr : report = r := congrArg Prod.fst run
  have hw : watched = (r, messages) := congrArg Prod.fst watchedRun
  rw [hr, hw]
  refine ⟨rfl, issue, gap, fun i => ?_, fun i => ?_, fun e he => findings _ (mem_groups.2 ⟨e, he, rfl⟩)⟩
  · rw [hissue]
    exact reported issue i
  · rw [hgap]
    exact reported gap i

/-- Two transitions on one event, for values up to 3 and for those above. -/
def splitAt3 : Machine where
  nodes := []
  edges := [⟨"a", "s", "t", some ⟨some "go", none, none, some true, some [.of "n" .gt (.integer 3)]⟩⟩,
    ⟨"b", "s", "u", some ⟨some "go", none, none, some true, some [.of "n" .le (.integer 3)]⟩⟩]
  declared := []

theorem Analyzer.analyze_exact_splitAt3 :
    ∀ e ∈ splitAt3.edges, (e.group splitAt3.edges).FiresOnce Config.default.precedence splitAt3.declared := by
  have silent : (((((timed .default).checks.watched.analyze splitAt3).run []).run fun _ => .nominal).1).2 = [] := by cbv
  have exclusive : ((((timed .default).analyze splitAt3).run fun _ => .nominal).1).determinism = [] := by cbv
  have covered : ((((timed .default).analyze splitAt3).run fun _ => .nominal).1).completeness = [] := by cbv
  obtain ⟨_, issue, gap, issues, gaps, findings⟩ := analyze_exact .default (fun _ => .nominal) splitAt3
  intro e he
  have noIssue : issue (e.group splitAt3.edges) = none := by
    refine Option.eq_none_iff_forall_ne_some.2 fun i h => ?_
    have := (issues i).2 ⟨e, he, h⟩
    rw [exclusive] at this
    cases this
  have noGap : gap (e.group splitAt3.edges) = none := by
    refine Option.eq_none_iff_forall_ne_some.2 fun i h => ?_
    have := (gaps i).2 ⟨e, he, h⟩
    rw [covered] at this
    cases this
  exact (findings e he).firesOnce silent noIssue noGap

end TransitionGuards
