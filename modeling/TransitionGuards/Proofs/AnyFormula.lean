import TransitionGuards.Proofs.Decision

/-
  Queries whose formulas were not made by folding.

  A value put in for a variable brings any formula into normal form, so from
  the first decision on the search is the one for folded formulas. Before it,
  only the top of the query has been folded. If that leaves a formula without
  variables which is not a constant, there is nothing to decide and the formula
  is never looked into: such an inert query counts as unsatisfiable, whatever
  it means. Every other query is decided by its meaning (`decideAll_sat_iff`),
  and so two queries of one meaning get one answer
  (`decideAll_depends_on_meaning`).
-/

namespace TransitionGuards

/-- No constant, and no variable to decide it by. -/
def Formula.Inert (f : Formula) : Prop := (∀ b, f ≠ .const b) ∧ f.atoms = []

/-- The assertions hold together on the values. -/
def Satisfies (s : Values) (assertions : List Formula) : Prop :=
  ∀ f ∈ assertions, f.eval (fun x => some (s x)) = some true

theorem satisfies_iff {s : Values} {assertions : List Formula} :
    Satisfies s assertions ↔ (Formula.conj assertions).holds s = true := by
  rw [Formula.holds_conj, List.all_eq_true]
  apply forall₂_congr
  intro f _
  rw [Formula.eval_total, Option.some.injEq]

theorem Finds.none_of_inert {f : Formula} {found : Option Assignment} (inert : f.Inert)
    (h : Finds (searchOrder f.candidates) f found) : found = none := by
  have nothing : ∀ e, e ∉ searchOrder f.candidates := by
    intro e he
    obtain ⟨⟨a, ha, _⟩, _⟩ := Formula.mem_searchOrder_iff.1 he
    rw [inert.2] at ha
    cases ha
  rw [List.eq_nil_iff_forall_not_mem.2 nothing] at h
  cases h with
  | yes => exact absurd rfl (inert.1 true)
  | no => rfl
  | exhausted _ => rfl

/-- Where nothing is found, the formula cannot hold, in normal form or not: the
first variable listed is one of the formula, and with a value put in for it the
search is ready. -/
theorem Finds.refuted_of_not_inert {f : Formula} (h : Finds (searchOrder f.candidates) f none) (live : ¬f.Inert)
    (s : Values) : f.holds s = false := by
  have listed : ∀ a ∈ f.atoms, a.var ∈ (searchOrder f.candidates).map (·.1) :=
    fun a ha => Formula.mem_searchOrder.2 ⟨a, ha, rfl⟩
  have entry : ∀ e ∈ searchOrder f.candidates, (∃ a ∈ f.atoms, a.var = e.1) ∧ e.2 = candidatesOf f.atoms e.1 :=
    fun e he => Formula.mem_searchOrder_iff.1 he
  generalize searchOrder f.candidates = order at h listed entry
  cases h with
  | no => rfl
  | exhausted undecided =>
    -- nothing listed, so no atom: the formula would be inert
    have none : f.atoms = [] := List.eq_nil_iff_forall_not_mem.2 fun a ha => List.not_mem_nil (listed a ha)
    exact absurd ⟨undecided, none⟩ live
  | @skip x values rest _ _ unused _ =>
    have used := (Formula.mentions_iff x f).2 (entry _ (List.mem_cons_self ..)).1
    rw [unused] at used
    cases used
  | @refute x values rest _ _ refuted =>
    have hvalues : values = candidatesOf f.atoms x := (entry _ (List.mem_cons_self ..)).2
    apply Formula.fails_of_candidates (fun a ha => ha) (x := x)
    intro v hv
    have ready : Ready f.atoms rest (f.assign x v) := {
      normal := .assign x v f
      listed := fun a ha => by
        obtain ⟨ha, hx⟩ := Formula.mem_atoms_assign ha
        exact List.mem_of_ne_of_mem hx (listed a ha)
      sub := fun a ha => (Formula.mem_atoms_assign ha).1
      candidates := fun e he => (entry e (List.mem_cons_of_mem _ he)).2 }
    exact (refuted v (hvalues ▸ hv)).refuted s rfl ready

theorem decideAll_sat_iff (clock : Clock) (table : SymbolTable) (assertions : List Formula) :
    (∃ w, decideAll clock table assertions .unbounded = .ok (.sat w)) ↔
      (∃ s, Satisfies s assertions) ∧ ¬(Formula.conj assertions).Inert := by
  constructor
  · intro h
    obtain ⟨w, h⟩ := h
    obtain ⟨choices, finds, _⟩ := finds_of_sat h
    refine ⟨⟨_, satisfies_iff.2 finds.complete_holds⟩, fun inert => ?_⟩
    cases finds.none_of_inert inert
  · intro h
    obtain ⟨⟨s, satisfied⟩, live⟩ := h
    obtain ⟨outcome, answer⟩ := decideAll_unbounded clock table assertions
    cases outcome with
    | sat w => exact ⟨w, answer⟩
    | unsat =>
      have fails := (finds_of_unsat answer).refuted_of_not_inert live s
      rw [satisfies_iff.1 satisfied] at fails
      cases fails

/-- The answer depends only on what the assertions mean and on whether the query
is inert; the shape of the formulas, the names and the clock play no part. -/
theorem decideAll_depends_on_meaning (clock clock' : Clock) (table table' : SymbolTable) (fs gs : List Formula)
    (same : ∀ s, Satisfies s fs ↔ Satisfies s gs) (alike : (Formula.conj fs).Inert ↔ (Formula.conj gs).Inert) :
    (∃ w, decideAll clock table fs .unbounded = .ok (.sat w)) ↔
      ∃ w, decideAll clock' table' gs .unbounded = .ok (.sat w) := by
  rw [decideAll_sat_iff, decideAll_sat_iff, exists_congr same, alike]

/-- A comparison, and the same under connectives that folding would remove. -/
def overgrown : List Formula × List Formula :=
  ([.compare ⟨0⟩ .gt 3], [.and [.or [.not (.not (.compare ⟨0⟩ .gt 3)), .const false], .and []], .not (.const false)])

theorem decideAll_depends_on_meaning_overgrown :
    (∀ s, Satisfies s overgrown.1 ↔ Satisfies s overgrown.2) ∧
    ((Formula.conj overgrown.1).Inert ↔ (Formula.conj overgrown.2).Inert) ∧
    ∃ w, decideAll .nominal ⟨["x"], by decide⟩ overgrown.2 .unbounded = .ok (.sat w) := by
  have same : ∀ s, Satisfies s overgrown.1 ↔ Satisfies s overgrown.2 := by
    intro s
    simp [Satisfies, overgrown, Formula.eval_total, Formula.compare]
  have alike : (Formula.conj overgrown.1).Inert ↔ (Formula.conj overgrown.2).Inert := by
    constructor
    · intro inert
      cases inert.2
    · intro inert
      cases inert.2
  have found : decideAll .nominal ⟨["x"], by decide⟩ overgrown.1 .unbounded = .ok (.sat ⟨[("x", 4)]⟩) := by cbv
  exact ⟨same, alike, (decideAll_depends_on_meaning _ _ _ _ _ _ same alike).1 ⟨_, found⟩⟩

/-- A negated `false` holds always, as no assertions at all do, and yet is found
unsatisfiable. -/
theorem decideAll_unfolded_constant :
    (∀ s, Satisfies s [.not (.const false)] ↔ Satisfies s []) ∧
    decideAll .nominal .empty [.not (.const false)] .unbounded = .ok .unsat ∧
    decideAll .nominal .empty [] .unbounded = .ok (.sat ⟨[]⟩) := by
  refine ⟨fun s => ?_, by cbv, by cbv⟩
  simp [Satisfies, Formula.eval]

end TransitionGuards
