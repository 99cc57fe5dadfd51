import TransitionGuards.Proofs.Compilation
import TransitionGuards.Proofs.Decision

/-
  What an answer of the decision procedure says about formulas whose meanings
  are known.

  "Unsatisfiable" says that no valuation satisfies all the meanings
  (`refuted_of_unsat`); a witness attests that some valuation does
  (`attests_of_sat`). The variables have disappeared from both statements:
  values are values of names.
-/

namespace TransitionGuards

/-- Whether the witness gives values to the names and no others, such that the
property holds wherever names have these values. -/
structure Witness.Attests (w : Witness) (names : String → Prop) (property : Valuation → Prop) : Prop where
  lists : w.Lists names
  holds : ∀ σ, w.Shows σ → property σ

theorem Witness.Attests.possible {w : Witness} {names : String → Prop} {property : Valuation → Prop}
    (h : w.Attests names property) : ∃ σ, property σ := by
  obtain ⟨σ, shown⟩ := Witness.exists_shows h.lists.sorted
  exact ⟨σ, h.holds σ shown⟩

theorem Witness.Attests.congr {w : Witness} {names names' : String → Prop} {property property' : Valuation → Prop}
    (h : w.Attests names property) (sameNames : ∀ name, names name ↔ names' name)
    (sameProperty : ∀ σ, property σ → property' σ) : w.Attests names' property' where
  lists := ⟨h.lists.sorted, fun name => (h.lists.names_iff name).trans (sameNames name)⟩
  holds σ shown := sameProperty σ (h.holds σ shown)

/-- Whether the text is that of a witness on which the property holds. -/
def Witnessed (text : Option String) (property : Valuation → Prop) : Prop :=
  ∃ (w : Witness) (names : String → Prop), text = some w.text ∧ w.Attests names property

section
variable {α : Type} {m : α → Valuation → Bool} {fs : List Formula} {as : List α}
variable {clock : Clock} {table : SymbolTable} {limits : Limits}

theorem refuted_of_unsat (means : List.Forall₂ (fun f a => f.Means table (m a)) fs as)
    (h : decideAll clock table fs limits = .ok .unsat) (σ : Valuation) : ¬∀ a ∈ as, m a σ = true := by
  intro all
  have conj := (Formula.Means.conj means).holds σ _ (table.reads_values σ)
  rw [List.all_eq_true.2 all, Formula.holds_conj, List.all_eq_true] at conj
  obtain ⟨f, hf, fails⟩ := unsat_exact (fun f hf => (Formula.Means.all_built means f hf).normal) h (table.values σ)
  rw [conj f hf] at fails
  cases fails

/-- A witness that was found attests that all the meanings can be satisfied. -/
theorem attests_of_sat {w : Witness} (means : List.Forall₂ (fun f a => f.Means table (m a)) fs as)
    (h : decideAll clock table fs limits = .ok (.sat w)) :
    w.Attests (table.Names fs) fun σ => ∀ a ∈ as, m a σ = true := by
  obtain ⟨lists, eval⟩ := sat_exact (fun f hf => (Formula.Means.all_built means f hf).known_var) h
  refine ⟨lists, fun σ shown => ?_⟩
  have conj := (Formula.Means.conj means).holds σ _ (table.reads_values σ)
  rw [← List.all_eq_true, ← conj, Formula.holds_conj, List.all_eq_true]
  intro f hf
  apply Formula.holds_of_eval (eval f hf)
  intro x v hv
  -- the value of a variable goes by its name, and there it is what the witness shows
  obtain ⟨name, hn, hv⟩ := Option.bind_eq_some_iff.1 hv
  rw [table.reads_values σ x name hn]
  exact shown _ (Witness.mem_of_get? hv)

end

end TransitionGuards
