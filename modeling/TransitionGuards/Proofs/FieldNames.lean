import TransitionGuards.Proofs.Comparisons
import TransitionGuards.Proofs.Pairs

/-
  Guards on fields against guards in text.

  A field is a variable named by the prefix `field_` and its identifier, a name
  in text stands for itself. Guards that have no name in common hold together
  if each of them holds somewhere: the values of the one leave the other alone
  (`Guard.exists_bothHold_iff`). So a guard on fields and one in text are
  satisfiable together exactly if both are satisfiable, unless the text spells
  out the name of one of the fields. Nothing keeps it from that: `field_x` is a
  name like any other, and in the text it speaks of the field
  (`Analyzer.checkPair_alias`).
-/

namespace TransitionGuards

namespace Guard
variable {precedence : Precedence} {g₁ g₂ : Guard}

/-- Whether no name occurs in both guards. -/
def Apart (precedence : Precedence) (g₁ g₂ : Guard) : Prop :=
  ∀ c ∈ g₁.comparisons precedence, ∀ d ∈ g₂.comparisons precedence, d.name ≠ c.name

/-- Guards without a name in common hold together if each of them can hold. -/
theorem exists_bothHold_iff (apart : Apart precedence g₁ g₂) :
    (∃ σ, BothHold precedence g₁ g₂ σ) ↔
      (∃ σ, g₁.holds precedence σ = true) ∧ ∃ σ, g₂.holds precedence σ = true := by
  constructor
  · intro h
    obtain ⟨σ, h₁, h₂⟩ := h
    exact ⟨⟨σ, h₁⟩, σ, h₂⟩
  · intro h
    obtain ⟨⟨σ₁, h₁⟩, σ₂, h₂⟩ := h
    -- the names of the first guard go by the first valuation, all others by the second
    let σ : Valuation := fun name => if ∃ c ∈ g₁.comparisons precedence, c.name = name then σ₁ name else σ₂ name
    have first : ∀ c ∈ g₁.comparisons precedence, σ c.name = σ₁ c.name := fun c hc => if_pos ⟨c, hc, rfl⟩
    have second : ∀ d ∈ g₂.comparisons precedence, σ d.name = σ₂ d.name := by
      intro d hd
      apply if_neg
      rintro ⟨c, hc, same⟩
      exact apart c hc d hd same.symm
    exact ⟨σ, (holds_congr first).trans h₁, (holds_congr second).trans h₂⟩

theorem exists_bothHold_alwaysTrue_iff {g : Guard} :
    (∃ σ, BothHold precedence g .alwaysTrue σ) ↔ ∃ σ, g.holds precedence σ = true :=
  exists_congr fun _ => and_iff_left rfl

end Guard

namespace Analyzer
variable {config : Config}

/-- Whether the analyzer finds that both guards can hold. -/
def Overlap (config : Config) (clock : Clock) (g₁ g₂ : Guard) : Prop :=
  ((builtin config clock).checkPair g₁ g₂).run.satisfiable = true

theorem overlap_iff (lenient : config.strict = false) (noTimeout : config.timeoutMs = none)
    (noBudget : config.maxDecisions = none) {clock : Clock} {g₁ g₂ : Guard} :
    Overlap config clock g₁ g₂ ↔ ∃ σ, Guard.BothHold config.precedence g₁ g₂ σ :=
  satisfiable_iff (checkPair_answered lenient noTimeout noBudget)

/-- Without limits and strictness, a guard on fields and one in text that are
found satisfiable together are so each on its own; and those that are so each on
its own are found satisfiable together, unless the text has the name of the
variable of one of the fields. -/
theorem checkPair_fieldsApart (config : Config) (clock clock₁ clock₂ : Clock) (conditions : List FieldCondition)
    (text : String) (lenient : config.strict = false) (noTimeout : config.timeoutMs = none)
    (noBudget : config.maxDecisions = none) :
    (Overlap config clock (.protocol conditions) (.manual text) →
      Overlap config clock₁ (.protocol conditions) .alwaysTrue ∧ Overlap config clock₂ (.manual text) .alwaysTrue) ∧
    ((∀ c ∈ conditions, ∀ d ∈ (Expression.parse config.precedence text).comparisons, d.name ≠ c.variableName) →
      (Overlap config clock (.protocol conditions) (.manual text) ↔
        Overlap config clock₁ (.protocol conditions) .alwaysTrue ∧ Overlap config clock₂ (.manual text) .alwaysTrue)) := by
  simp only [overlap_iff lenient noTimeout noBudget, Guard.exists_bothHold_alwaysTrue_iff]
  constructor
  · intro h
    obtain ⟨σ, holds₁, holds₂⟩ := h
    exact ⟨⟨σ, holds₁⟩, σ, holds₂⟩
  · intro foreign
    apply Guard.exists_bothHold_iff
    intro c hc d hd
    obtain ⟨condition, hcondition, rfl⟩ := List.mem_map.1 hc
    exact foreign condition hcondition d hd

/-- A field, and a name that the field's variable does not have. -/
theorem checkPair_fieldsApart_sameIdentifier :
    let conditions : List FieldCondition := [.of "x" .eq (.integer 1)]
    (∀ c ∈ conditions, ∀ d ∈ (Expression.parse .legacy "x == 2").comparisons, d.name ≠ c.variableName) ∧
    Overlap .unlimited .nominal (.protocol conditions) .alwaysTrue ∧
    Overlap .unlimited .nominal (.manual "x == 2") .alwaysTrue ∧
    Overlap .unlimited .nominal (.protocol conditions) (.manual "x == 2") := by
  intro conditions
  have foreign : ∀ c ∈ conditions, ∀ d ∈ (Expression.parse .legacy "x == 2").comparisons, d.name ≠ c.variableName := by
    decide +kernel
  have field : Overlap .unlimited .nominal (.protocol conditions) .alwaysTrue := by
    rw [overlap_iff rfl rfl rfl]
    exact ⟨fun _ => 1, by decide, rfl⟩
  have text : Overlap .unlimited .nominal (.manual "x == 2") .alwaysTrue := by
    rw [overlap_iff rfl rfl rfl]
    exact ⟨fun _ => 2, by decide +kernel, rfl⟩
  have result := checkPair_fieldsApart .unlimited .nominal .nominal .nominal conditions "x == 2" rfl rfl rfl
  exact ⟨foreign, field, text, (result.2 foreign).2 ⟨field, text⟩⟩

/-- The name of a field's variable, in text, is that variable: each of the two
guards can hold, and both together cannot. -/
theorem checkPair_alias :
    ¬Overlap .unlimited .nominal (.protocol [.of "x" .eq (.integer 1)]) (.manual "field_x == 2") ∧
    Overlap .unlimited .nominal (.protocol [.of "x" .eq (.integer 1)]) .alwaysTrue ∧
    Overlap .unlimited .nominal (.manual "field_x == 2") .alwaysTrue := by
  rw [overlap_iff rfl rfl rfl, overlap_iff rfl rfl rfl, overlap_iff rfl rfl rfl]
  refine ⟨?_, ⟨fun _ => 1, by decide, rfl⟩, ⟨fun _ => 2, by decide +kernel, rfl⟩⟩
  rintro ⟨σ, field, text⟩
  -- the field is one, and the text speaks of nothing else
  have one : σ "field_x" = 1 := by
    have holds : (σ (FieldCondition.of "x" .eq (.integer 1)).variableName == 1) = true := by
      rw [← Bool.and_true (_ == _)]
      exact field
    exact beq_iff_eq.1 holds
  have names : ∀ d ∈ (Expression.parse .legacy "field_x == 2").comparisons, d.name = "field_x" := by decide +kernel
  have same : (Guard.manual "field_x == 2").holds .legacy σ = (Guard.manual "field_x == 2").holds .legacy fun _ => 1 :=
    Guard.holds_congr fun d hd => (names d hd).symm ▸ one
  have refuted : (Guard.manual "field_x == 2").holds .legacy (fun _ => 1) = false := by decide +kernel
  exact Bool.false_ne_true (refuted.symm.trans (same.symm.trans text))

end Analyzer

end TransitionGuards
