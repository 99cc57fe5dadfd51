import TransitionGuards.Proofs.Evaluation

/-
  The normal form of formulas.

  A formula in normal form is a constant, or it has no constant anywhere, no
  double negation, at least two parts under every connective and no connective
  directly under one of its own kind. Folding makes formulas of this form out
  of formulas of this form, and putting in values does so out of any formula,
  many values at once (`fill`) or a single one (`assign`). In normal form a
  formula without atoms is a constant (`Normal.eq_const`): the search relies on
  that when it runs out of variables.
-/

namespace TransitionGuards

namespace Formula

/-- In normal form, and no constant. -/
inductive Solid : Formula → Prop
  | atom (a : Atom) : Solid (.atom a)
  | not {f : Formula} (solid : Solid f) (single : ∀ g, f ≠ .not g) : Solid (.not f)
  | and {parts : List Formula} (several : 2 ≤ parts.length) (solid : ∀ f ∈ parts, Solid f)
      (flat : ∀ f ∈ parts, ∀ gs, f ≠ .and gs) : Solid (.and parts)
  | or {parts : List Formula} (several : 2 ≤ parts.length) (solid : ∀ f ∈ parts, Solid f)
      (flat : ∀ f ∈ parts, ∀ gs, f ≠ .or gs) : Solid (.or parts)

/-- In normal form. -/
def Normal (f : Formula) : Prop := (∃ b, f = .const b) ∨ f.Solid

/-- What comes of comparisons and constants under `conj`, `disj` and `neg`, the
variables among the known ones. -/
inductive Built (known : VarId → Prop) : Formula → Prop
  | const (b : Bool) : Built known (.const b)
  | compare {x : VarId} (c : Comparator) (v : Int64) (hx : known x) : Built known (.compare x c v)
  | conj {parts : List Formula} (built : ∀ f ∈ parts, Built known f) : Built known (.conj parts)
  | disj {parts : List Formula} (built : ∀ f ∈ parts, Built known f) : Built known (.disj parts)
  | neg {f : Formula} (built : Built known f) : Built known f.neg

theorem Solid.exists_atom {f : Formula} (h : f.Solid) : ∃ a, a ∈ f.atoms := by
  induction h with
  | atom a => exact ⟨a, List.mem_singleton_self a⟩
  | not _ _ ih => exact ih
  | @and parts several _ _ ih | @or parts several _ _ ih =>
    obtain ⟨f, hf⟩ := List.exists_mem_of_length_pos (Nat.lt_of_lt_of_le Nat.zero_lt_two several)
    obtain ⟨a, ha⟩ := ih f hf
    exact ⟨a, by simpa using ⟨f, hf, ha⟩⟩

theorem Normal.eq_const {f : Formula} (h : f.Normal) (none : ∀ a, a ∉ f.atoms) : ∃ b, f = .const b := by
  rcases h with h | h
  · exact h
  · obtain ⟨a, ha⟩ := h.exists_atom
    exact absurd ha (none a)

theorem Normal.solid {f : Formula} (h : f.Normal) (undecided : ∀ b, f ≠ .const b) : f.Solid := by
  rcases h with h | h
  · obtain ⟨b, hb⟩ := h
    exact absurd hb (undecided b)
  · exact h

/-! ## Folding keeps the normal form -/

/-- Splicing carries a property of the parts over to what it leaves: a part that
is kept has it as it is, one that is spliced in has it for its own parts. -/
theorem Spliced.forall_mem {unit : Bool} {kind : List Formula → Formula} {before after : Formula → Prop}
    {fs gs : List Formula} (h : Spliced unit kind fs gs)
    (keep : ∀ f, before f → (∀ b, f ≠ .const b) → (∀ hs, f ≠ kind hs) → after f)
    (parts : ∀ inner, before (kind inner) → ∀ g ∈ inner, after g)
    (all : ∀ f ∈ fs, before f) : ∀ g ∈ gs, after g := by
  induction h with
  | nil => exact fun g hg => absurd hg List.not_mem_nil
  | drop _ ih => exact ih fun f hf => all f (List.mem_cons_of_mem _ hf)
  | splice _ ih =>
    obtain ⟨first, rest⟩ := List.forall_mem_cons.1 all
    exact List.forall_mem_append.2 ⟨parts _ first, ih rest⟩
  | keep undecided other _ ih =>
    obtain ⟨first, rest⟩ := List.forall_mem_cons.1 all
    exact List.forall_mem_cons.2 ⟨keep _ first undecided other, ih rest⟩

/-- Splicing formulas in normal form leaves solid ones, none of the kind
itself. -/
theorem Spliced.solid {unit : Bool} {kind : List Formula → Formula} {fs gs : List Formula}
    (h : Spliced unit kind fs gs)
    (parts : ∀ inner, (kind inner).Normal → ∀ g ∈ inner, g.Solid ∧ ∀ hs, g ≠ kind hs)
    (normal : ∀ f ∈ fs, f.Normal) : ∀ g ∈ gs, g.Solid ∧ ∀ hs, g ≠ kind hs :=
  h.forall_mem (fun _ normal undecided other => ⟨normal.solid undecided, other⟩) parts normal

theorem Normal.parts_and {inner : List Formula} (h : (Formula.and inner).Normal) :
    ∀ g ∈ inner, g.Solid ∧ ∀ hs, g ≠ .and hs := by
  intro g hg
  cases h.solid nofun with
  | and _ solid flat => exact ⟨solid g hg, flat g hg⟩

theorem Normal.parts_or {inner : List Formula} (h : (Formula.or inner).Normal) :
    ∀ g ∈ inner, g.Solid ∧ ∀ hs, g ≠ .or hs := by
  intro g hg
  cases h.solid nofun with
  | or _ solid flat => exact ⟨solid g hg, flat g hg⟩

theorem Folded.normal {unit : Bool} {kind : List Formula → Formula} {fs : List Formula} {g : Formula}
    (h : Folded unit kind fs g) (parts : ∀ inner, (kind inner).Normal → ∀ g ∈ inner, g.Solid ∧ ∀ hs, g ≠ kind hs)
    (join : ∀ {gs : List Formula}, 2 ≤ gs.length → (∀ f ∈ gs, f.Solid) → (∀ f ∈ gs, ∀ hs, f ≠ kind hs) → (kind gs).Solid)
    (normal : ∀ f ∈ fs, f.Normal) : g.Normal := by
  cases h with
  | settled _ => exact .inl ⟨_, rfl⟩
  | nothing _ => exact .inl ⟨_, rfl⟩
  | single spliced => exact .inr (spliced.solid parts normal g (List.mem_singleton_self g)).1
  | several two spliced =>
    have solid := spliced.solid parts normal
    exact .inr (join two (fun f hf => (solid f hf).1) fun f hf => (solid f hf).2)

theorem Normal.conj {fs : List Formula} (normal : ∀ f ∈ fs, f.Normal) : (conj fs).Normal :=
  (folded_conj fs).normal (fun _ => Normal.parts_and) .and normal

theorem Normal.disj {fs : List Formula} (normal : ∀ f ∈ fs, f.Normal) : (disj fs).Normal :=
  (folded_disj fs).normal (fun _ => Normal.parts_or) .or normal

theorem Normal.neg {f : Formula} (h : f.Normal) : f.neg.Normal := by
  rcases h with ⟨b, rfl⟩ | h
  · exact .inl ⟨!b, rfl⟩
  · cases h with
    | not solid _ => exact .inr solid
    | atom a => exact .inr (.not (.atom a) nofun)
    | and several solid flat => exact .inr (.not (.and several solid flat) nofun)
    | or several solid flat => exact .inr (.not (.or several solid flat) nofun)

/-! ## Filling in values -/

mutual

/-- The formula with all the values put in at once, folded. -/
def fill (value : VarId → Option Int64) : Formula → Formula
  | .const b => .const b
  | .atom a =>
    match value a.var with
    | some v => .const (a.comparator.holds v a.value)
    | none => .atom a
  | .not f => neg (fill value f)
  | .and parts => conj (fillAll value parts)
  | .or parts => disj (fillAll value parts)

def fillAll (value : VarId → Option Int64) : List Formula → List Formula
  | [] => []
  | f :: rest => fill value f :: fillAll value rest

end

section
variable {value : VarId → Option Int64}

@[simp] theorem fillAll_eq : ∀ fs : List Formula, fillAll value fs = fs.map (fill value)
  | [] => rfl
  | f :: rest => by rw [fillAll, fillAll_eq rest, List.map_cons]

@[simp] theorem fill_const (b : Bool) : (const b).fill value = const b := rfl
@[simp] theorem fill_not (f : Formula) : (not f).fill value = (f.fill value).neg := rfl

@[simp] theorem fill_and (fs : List Formula) : (and fs).fill value = conj (fs.map (fill value)) := by
  rw [fill, fillAll_eq]

@[simp] theorem fill_or (fs : List Formula) : (or fs).fill value = disj (fs.map (fill value)) := by
  rw [fill, fillAll_eq]

end

/-- Filling in values brings any formula into normal form. -/
theorem Normal.fill (value : VarId → Option Int64) (f : Formula) : (f.fill value).Normal := by
  induction f with
  | const b => exact .inl ⟨b, rfl⟩
  | atom a =>
    rw [Formula.fill]
    split
    · exact .inl ⟨_, rfl⟩
    · exact .inr (.atom a)
  | not f ih => exact ih.neg
  | and parts ih =>
    rw [fill_and]
    exact Normal.conj (by simpa using ih)
  | or parts ih =>
    rw [fill_or]
    exact Normal.disj (by simpa using ih)

def only (x : VarId) (v : Int64) : VarId → Option Int64 := fun y => if x = y then some v else none

theorem assign_eq_fill (x : VarId) (v : Int64) (f : Formula) : f.assign x v = f.fill (only x v) := by
  induction f with
  | const b => rfl
  | atom a =>
    by_cases hx : a.var = x
    · simp [assign, fill, only, hx]
    · simp [assign, fill, only, hx, Ne.symm hx]
  | not f ih => rw [assign, fill, ih]
  | and parts ih => rw [assign, assignAll_eq, fill_and, List.map_congr_left ih]
  | or parts ih => rw [assign, assignAll_eq, fill_or, List.map_congr_left ih]

/-- Assignment brings any formula into normal form. -/
theorem Normal.assign (x : VarId) (v : Int64) (f : Formula) : (f.assign x v).Normal := by
  rw [assign_eq_fill]
  exact Normal.fill _ f

namespace Built
variable {known : VarId → Prop} {f : Formula}

theorem normal (h : f.Built known) : f.Normal := by
  induction h with
  | const b => exact .inl ⟨b, rfl⟩
  | compare c v _ => exact .inr (.atom _)
  | conj _ ih => exact Normal.conj ih
  | disj _ ih => exact Normal.disj ih
  | neg _ ih => exact ih.neg

theorem known_var (h : f.Built known) : ∀ a ∈ f.atoms, known a.var := by
  induction h with
  | const b => exact fun a ha => absurd ha List.not_mem_nil
  | compare c v hx =>
    intro a ha
    rw [List.mem_singleton.1 ha]
    exact hx
  | conj _ ih =>
    intro a ha
    obtain ⟨f, hf, ha⟩ := mem_atoms_conj ha
    exact ih f hf a ha
  | disj _ ih =>
    intro a ha
    obtain ⟨f, hf, ha⟩ := mem_atoms_disj ha
    exact ih f hf a ha
  | neg _ ih => rwa [atoms_neg]

theorem mono {known' : VarId → Prop} (h : f.Built known) (wider : ∀ x, known x → known' x) : f.Built known' := by
  induction h with
  | const b => exact .const b
  | compare c v hx => exact .compare c v (wider _ hx)
  | conj _ ih => exact .conj ih
  | disj _ ih => exact .disj ih
  | neg _ ih => exact .neg ih

end Built

end Formula

end TransitionGuards
