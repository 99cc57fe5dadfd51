import TransitionGuards.Proofs.Coverage

/-
  Guards that cover every input still do so beside further guards and under
  further declarations.

  A gap of the longer lists is one of the shorter lists (`IsGap.sublist`), so
  there is none to be reported. A longer query may be one that cannot be answered:
  a guard is rejected, a declaration leaves no value, or the limits are too
  narrow. Its fallback counts the guards as complete as well.
-/

namespace TransitionGuards
variable {precedence : Precedence} {guards guards' : List Guard} {declared declared' : List Variable}

theorem IsGap.sublist {σ : Valuation} (gap : IsGap precedence guards' declared' σ) (moreGuards : guards.Sublist guards')
    (moreDeclared : declared.Sublist declared') : IsGap precedence guards declared σ where
  left v hv := gap.1 v (moreDeclared.subset hv)
  right g hg := gap.2 g (moreGuards.subset hg)

theorem CoverageVerdict.complete_of_no_gap {mode : CompileMode} {v : CompletenessVerdict}
    (h : CoverageVerdict mode guards declared v) (none : ¬∃ σ, IsGap mode.precedence guards declared σ) :
    v.complete = true ∧ v.gapModel = .none := by
  cases h with
  | fallback message => exact ⟨rfl, rfl⟩
  | gap _ attests => exact absurd attests.possible none
  | covered _ => exact ⟨rfl, rfl⟩

/-- The default settings, except that guards that cannot be read are rejected. -/
def Config.rejecting : Config := { Config.default with strict := true }

namespace Analyzer

/-- If guards are found to cover every input, no gap is found when other guards
and declarations are put in between them, be these well formed or not, and
whether or not the longer query comes to an end. -/
theorem checkComplete_mono (config : Config) (clock clock' : Clock) (moreGuards : guards.Sublist guards')
    (moreDeclared : declared.Sublist declared') (nonempty : guards ≠ []) :
    let v := ((builtin config clock).checkComplete guards declared).run
    let v' := ((builtin config clock').checkComplete guards' declared').run
    v.complete = true → v.error = none → v'.complete = true ∧ v'.gapModel = none := by
  intro v v' complete answered
  have never : ¬∃ σ, IsGap config.precedence guards declared σ :=
    (checkComplete_right config clock guards declared).never complete answered nonempty
  have never' : ¬∃ σ, IsGap config.precedence guards' declared' σ := by
    intro h
    obtain ⟨σ, gap⟩ := h
    exact never ⟨σ, gap.sublist moreGuards moreDeclared⟩
  exact (checkComplete_right config clock' guards' declared').complete_of_no_gap never'

/-- Two guards that cover every input, the same with another one between them
that cannot be read, and a declaration that leaves no value. -/
def rejectedBetween : List Guard × List Guard × List Variable :=
  ([.protocol [.of "n" .gt (.integer 3)], .protocol [.of "n" .le (.integer 3)]],
   [.protocol [.of "n" .gt (.integer 3)], .manual "y >>> 2", .protocol [.of "n" .le (.integer 3)]],
   [.ofInt "field_n" (some 1) (some 0)])

theorem checkComplete_mono_rejectedBetween :
    rejectedBetween.1 ≠ [] ∧ rejectedBetween.1.Sublist rejectedBetween.2.1 ∧
    ((builtin .rejecting .nominal).checkComplete rejectedBetween.1 []).run = .covered ∧
    ((builtin .rejecting .nominal).checkComplete rejectedBetween.2.1 rejectedBetween.2.2).run.complete = true ∧
    ((builtin .rejecting .nominal).checkComplete rejectedBetween.2.1 rejectedBetween.2.2).run.gapModel = none := by
  have nonempty : rejectedBetween.1 ≠ [] := List.cons_ne_nil _ _
  have between : rejectedBetween.1.Sublist rejectedBetween.2.1 := .cons_cons _ (.cons _ (.refl _))
  have covered : ((builtin .rejecting .nominal).checkComplete rejectedBetween.1 []).run = .covered := by cbv
  have mono := checkComplete_mono .rejecting .nominal .nominal between (List.nil_sublist rejectedBetween.2.2) nonempty
  rw [covered] at mono
  exact ⟨nonempty, between, covered, mono rfl rfl⟩

end Analyzer

end TransitionGuards
