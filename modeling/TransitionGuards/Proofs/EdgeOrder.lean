import TransitionGuards.Proofs.FirstOverlaps
import TransitionGuards.Proofs.Reachability
import TransitionGuards.Proofs.Unlimited

/-
  The order of the transitions does not change what a report flags.

  Reordered transitions make the same groups, listed in another order and each
  with its transitions in another order (`perm_groups`). An analyzer that is blind
  to the order of guards flags the same ones among them (`perm_labels`), though it
  may show another overlap of a group or another gap. On the built-in backend an
  analyzer without limits is blind in this way (`orderBlind_builtin`): whether a
  guard is rejected, and what the guards mean, is a matter of each guard by itself.
-/

namespace TransitionGuards

/-! ## Groups of reordered transitions -/

/-- The transitions of a list that are from the state and on the event of the
group. -/
def Group.among (edges : List Edge) (g : Group) : Group :=
  ⟨g.source, g.event, edges.filter fun d => d.source == g.source && d.event == g.event⟩

/-- The state and the event of a group, as reports show them. -/
def Group.label (g : Group) : String × String := (g.source, eventLabel g.event)

def DeterminismIssue.label (i : DeterminismIssue) : String × String := (i.state, i.event)

def CompletenessIssue.label (i : CompletenessIssue) : String × String := (i.state, i.event)

section
variable {edges edges' : List Edge} {g : Group}

theorem Group.among_eq_self (hg : g ∈ groups edges) : g.among edges = g := by
  obtain ⟨e, _, rfl⟩ := mem_groups.1 hg
  rfl

theorem Group.among_injOn {g g' : Group} (hg : g ∈ groups edges) (hg' : g' ∈ groups edges)
    (same : g.among edges' = g'.among edges') : g = g' := by
  obtain ⟨source, event, _⟩ := Group.mk.inj same
  rw [← among_eq_self hg, ← among_eq_self hg', among, among, source, event]

variable (reordered : edges'.Perm edges)
include reordered

/-- Reordered transitions make the same groups, up to the order in each. -/
theorem perm_groups : (groups edges').Perm ((groups edges).map (·.among edges')) := by
  have distinct : ((groups edges).map (·.among edges')).Nodup :=
    (nodup_groups edges).map_on fun _ hg _ hg' => Group.among_injOn hg hg'
  refine (List.perm_ext_iff_of_nodup (nodup_groups edges') distinct).2 fun g => ?_
  rw [mem_groups, List.mem_map]
  constructor
  · intro h
    obtain ⟨e, he, rfl⟩ := h
    exact ⟨_, mem_groups.2 ⟨e, reordered.mem_iff.1 he, rfl⟩, rfl⟩
  · intro h
    obtain ⟨_, hg, rfl⟩ := h
    obtain ⟨e, he, rfl⟩ := mem_groups.1 hg
    exact ⟨e, reordered.mem_iff.2 he, rfl⟩

theorem Group.perm_among (hg : g ∈ groups edges) : (g.among edges').edges.Perm g.edges := by
  have perm : (g.among edges').edges.Perm (g.among edges).edges := reordered.filter _
  rwa [among_eq_self hg] at perm

end

/-! ## Labels -/

section
variable {ι : Type} {issue : Group → Option ι} {label : ι → String × String}

theorem map_filterMap_label (named : ∀ g i, issue g = some i → label i = g.label) : ∀ gs : List Group,
    (gs.filterMap issue).map label = (gs.filter fun g => (issue g).isSome).map (·.label)
  | [] => rfl
  | g :: rest => by
    rw [List.filterMap_cons, List.filter_cons]
    cases h : issue g with
    | none => exact map_filterMap_label named rest
    | some i =>
      show label i :: (rest.filterMap issue).map label = _
      rw [named g i h, map_filterMap_label named rest]
      rfl

/-- If the order of its transitions does not change whether a group has an issue,
reordered transitions lead to the same labels. -/
theorem perm_labels {edges edges' : List Edge} (reordered : edges'.Perm edges)
    (named : ∀ g i, issue g = some i → label i = g.label)
    (same : ∀ g ∈ groups edges, issue (g.among edges') = none ↔ issue g = none) :
    (((groups edges').filterMap issue).map label).Perm (((groups edges).filterMap issue).map label) := by
  have flagged : ∀ g ∈ groups edges, (issue (g.among edges')).isSome = (issue g).isSome :=
    fun g hg => Option.isSome_eq_isSome.2 (same g hg)
  rw [map_filterMap_label named, map_filterMap_label named]
  refine (((perm_groups reordered).filter _).map _).trans (.of_eq ?_)
  rw [List.filter_map, List.map_map]
  congr 1
  exact List.filter_congr flagged

end

/-! ## Analyzers that the order of guards does not matter to -/

namespace Analyzer

/-- Whether the order of guards makes no difference to what is found. -/
structure OrderBlind (a : Analyzer Id) : Prop where
  pair : ∀ g₁ g₂, (a.checkPair g₁ g₂).run.satisfiable = (a.checkPair g₂ g₁).run.satisfiable
  complete : ∀ {guards guards' : List Guard}, guards'.Perm guards → ∀ declared,
    (a.checkComplete guards' declared).run.complete = (a.checkComplete guards declared).run.complete

section
variable {a : Analyzer Id} {g : Group} {edges edges' : List Edge} {declared : List Variable}

theorem entry_eq_none_iff : a.entry g = none ↔ g.edges.Pairwise fun e₁ e₂ => a.overlaps e₁ e₂ = false := by
  rw [← Option.not_isSome_iff_eq_none, isSome_entry_iff, List.pairwise_iff_getElem]
  constructor
  · intro never p q hp hq inOrder
    exact eq_false_of_ne_true fun found => never
      ⟨p, q, _, _, List.getElem?_eq_getElem hp, List.getElem?_eq_getElem hq, inOrder, found⟩
  · intro apart h
    obtain ⟨p, q, e₁, e₂, first, second, inOrder, found⟩ := h
    obtain ⟨hp, rfl⟩ := List.getElem?_eq_some_iff.1 first
    obtain ⟨hq, rfl⟩ := List.getElem?_eq_some_iff.1 second
    rw [apart p q hp hq inOrder] at found
    cases found

/-- What the analyzer reports on the gaps of a group. -/
def gapEntry (a : Analyzer Id) (declared : List Variable) (g : Group) : Option CompletenessIssue :=
  (a.checks.groupCompleteness declared g).run

theorem gapEntry_eq : a.gapEntry declared g =
    if (a.checkComplete (g.edges.map (·.guard)) declared).run.complete then none
    else some ⟨g.source, eventLabel g.event, (a.checkComplete (g.edges.map (·.guard)) declared).run.gapModel⟩ := rfl

theorem checkCompleteness_run (edges : List Edge) :
    (a.checkCompleteness edges declared).run = (groups edges).filterMap (a.gapEntry declared) := eachGroup_run _ _

theorem perm_determinism (blind : a.OrderBlind) (reordered : edges'.Perm edges) :
    ((a.checkDeterminism edges').run.map (·.label)).Perm
      ((a.checkDeterminism edges).run.map (·.label)) := by
  rw [checkDeterminism_run, checkDeterminism_run]
  refine perm_labels reordered (fun g i h => ?_) fun g hg => ?_
  · obtain ⟨_, _, _, _, _, rfl⟩ := a.records_of_entry h
    rfl
  · rw [entry_eq_none_iff, entry_eq_none_iff]
    have symm {e₁ e₂ : Edge} (apart : a.overlaps e₁ e₂ = false) : a.overlaps e₂ e₁ = false :=
      (blind.pair e₂.guard e₁.guard).trans apart
    exact (Group.perm_among reordered hg).pairwise_iff symm

theorem perm_completeness (blind : a.OrderBlind) (reordered : edges'.Perm edges) (declared : List Variable) :
    ((a.checkCompleteness edges' declared).run.map (·.label)).Perm
      ((a.checkCompleteness edges declared).run.map (·.label)) := by
  rw [checkCompleteness_run, checkCompleteness_run]
  refine perm_labels reordered (fun g i h => ?_) fun g hg => ?_
  · rw [gapEntry_eq] at h
    split at h
    · cases h
    · cases h
      rfl
  · have same := blind.complete ((Group.perm_among reordered hg).map (·.guard)) declared
    rw [gapEntry_eq, gapEntry_eq, same]
    split <;> simp

end

/-! ## The built-in backend without limits -/

section
variable {config : Config} {guards guards' : List Guard} {declared : List Variable}

theorem allAccepted_perm {mode : CompileMode} (reordered : guards'.Perm guards) :
    Guard.AllAccepted mode guards' ↔ Guard.AllAccepted mode guards := by
  simp only [Guard.AllAccepted, reordered.mem_iff]

theorem isGap_perm {precedence : Precedence} {σ : Valuation} (reordered : guards'.Perm guards) :
    IsGap precedence guards' declared σ ↔ IsGap precedence guards declared σ := by
  simp only [IsGap, reordered.mem_iff]

variable (noTimeout : config.timeoutMs = none) (noBudget : config.maxDecisions = none)
include noTimeout noBudget

/-- Without limits the verdicts on two guards, one way and the other way round,
are alike in what is found and in whether they are fallbacks. -/
theorem checkPair_swap (clock : Clock) (g₁ g₂ : Guard) :
    ((builtin config clock).checkPair g₁ g₂).run.satisfiable =
      ((builtin config clock).checkPair g₂ g₁).run.satisfiable ∧
    ((builtin config clock).checkPair g₁ g₂).run.isFallback =
      ((builtin config clock).checkPair g₂ g₁).run.isFallback := by
  have accepted {mode : CompileMode} : Guard.AllAccepted mode [g₁, g₂] ↔ Guard.AllAccepted mode [g₂, g₁] :=
    allAccepted_perm (.swap ..)
  constructor
  · have both (σ : Valuation) : Guard.BothHold config.precedence g₁ g₂ σ ↔ Guard.BothHold config.precedence g₂ g₁ σ :=
      and_comm
    rw [Bool.eq_iff_iff, satisfiable_iff_of_unlimited noTimeout noBudget,
      satisfiable_iff_of_unlimited noTimeout noBudget, accepted, exists_congr both]
  · rw [SatisfiabilityVerdict.isFallback, SatisfiabilityVerdict.isFallback, Option.isSome_eq_isSome,
      answered_iff_of_unlimited noTimeout noBudget, answered_iff_of_unlimited noTimeout noBudget, accepted]

theorem orderBlind_builtin (clock : Clock) : (builtin config clock).OrderBlind where
  pair g₁ g₂ := (checkPair_swap noTimeout noBudget clock g₁ g₂).1
  complete := by
    intro guards guards' reordered declared
    by_cases empty : guards = []
    · subst empty
      rw [List.perm_nil.1 reordered]
    · have nonempty : guards' ≠ [] := fun h => empty (List.nil_perm.1 (h ▸ reordered))
      have incomplete : ((builtin config clock).checkComplete guards' declared).run.complete = false ↔
          ((builtin config clock).checkComplete guards declared).run.complete = false := by
        rw [incomplete_iff_of_unlimited noTimeout noBudget nonempty,
          incomplete_iff_of_unlimited noTimeout noBudget empty, allAccepted_perm reordered]
        simp only [isGap_perm reordered]
      rw [Bool.eq_iff_iff]
      simpa using not_congr incomplete

end

end Analyzer

/-! ## States -/

section
variable {nodes : List Node} {edges edges' : List Edge} {state : String}

theorem Entered.mono (sub : edges ⊆ edges') (h : Entered nodes edges state) : Entered nodes edges' state := by
  obtain ⟨n, hn, initial, leads⟩ := h
  exact ⟨n, hn, initial, leads.mono sub⟩

variable (reordered : edges'.Perm edges)
include reordered

theorem deadStates_perm (nodes : List Node) : deadStates nodes edges' = deadStates nodes edges := by
  have sources (n : Node) : (edges'.map (·.source)).contains n.id = (edges.map (·.source)).contains n.id :=
    (reordered.map _).contains_eq
  simp only [deadStates, sources]

theorem unreachableStates_perm (nodes : List Node) : unreachableStates nodes edges' = unreachableStates nodes edges := by
  have entered (state : String) : Entered nodes edges' state ↔ Entered nodes edges state :=
    ⟨.mono reordered.subset, .mono reordered.symm.subset⟩
  simp only [unreachableStates_eq, entered]

end

/-! ## Reports -/

/-- On the built-in backend without limits, whether strict or not, reordered
transitions lead to the same states and events in the report as often as
before, to the same states without a way out and to the same states without a
way in. Likewise two guards are found to overlap, or not, whichever is named
first, and one way the verdict is a fallback exactly if it is the other way
round. -/
theorem Analyzer.analyze_perm {config : Config} (noTimeout : config.timeoutMs = none)
    (noBudget : config.maxDecisions = none) (clocks clocks' : Clocks) (machine : Machine) {edges : List Edge}
    (reordered : edges.Perm machine.edges) :
    let a := timed config
    let report := ((a.analyze machine).run clocks).1
    let report' := ((a.analyze { machine with edges := edges }).run clocks').1
    (report'.determinism.map (·.label)).Perm (report.determinism.map (·.label)) ∧
    (report'.completeness.map (·.label)).Perm (report.completeness.map (·.label)) ∧
    report'.deadStates = report.deadStates ∧
    report'.unreachableStates = report.unreachableStates ∧
    ∀ g₁ g₂,
      let v := ((a.checkPair g₁ g₂).run clocks).1
      let v' := ((a.checkPair g₂ g₁).run clocks').1
      v.satisfiable = v'.satisfiable ∧ v.isFallback = v'.isFallback := by
  have blind := orderBlind_builtin noTimeout noBudget .nominal
  intro a report report'
  -- without limits a report does not depend on clocks, so one clock does for both orders
  have run : report = ((builtin config .nominal).analyze machine).run :=
    settles_analyze noTimeout noBudget .nominal machine clocks
  have run' : report' = ((builtin config .nominal).analyze { machine with edges := edges }).run :=
    settles_analyze noTimeout noBudget .nominal _ clocks'
  rw [run, run']
  refine ⟨perm_determinism blind reordered, perm_completeness blind reordered machine.declared,
    deadStates_perm reordered machine.nodes, unreachableStates_perm reordered machine.nodes, fun g₁ g₂ => ?_⟩
  intro v v'
  have hv : v = ((builtin config .nominal).checkPair g₁ g₂).run :=
    settles_checkPair noTimeout noBudget .nominal g₁ g₂ clocks
  have hv' : v' = ((builtin config .nominal).checkPair g₂ g₁).run :=
    settles_checkPair noTimeout noBudget .nominal g₂ g₁ clocks'
  rw [hv, hv']
  exact checkPair_swap noTimeout noBudget .nominal g₁ g₂

/-- The transitions of `interleaved` in reverse. What is flagged first among them
comes last, and the other way round. -/
theorem Analyzer.analyze_perm_reversed : interleaved.reverse.Perm interleaved ∧
    ((((timed .unlimited).analyze ⟨[], interleaved, []⟩).run fun _ => .nominal).1.determinism.map (·.label)) =
      [("r", "(empty)"), ("s", "go")] ∧
    ((((timed .unlimited).analyze ⟨[], interleaved.reverse, []⟩).run fun _ => .nominal).1.determinism.map
      (·.label)).Perm [("r", "(empty)"), ("s", "go")] := by
  have noTimeout : Config.unlimited.timeoutMs = none := rfl
  have noBudget : Config.unlimited.maxDecisions = none := rfl
  have reordered := List.reverse_perm interleaved
  have flagged : ((((timed .unlimited).analyze ⟨[], interleaved, []⟩).run fun _ => .nominal).1.determinism.map
      (·.label)) = [("r", "(empty)"), ("s", "go")] := by cbv
  have same := (analyze_perm noTimeout noBudget (fun _ => .nominal) (fun _ => .nominal) ⟨[], interleaved, []⟩ reordered).1
  dsimp only at same
  rw [flagged] at same
  exact ⟨reordered, flagged, same⟩

end TransitionGuards
