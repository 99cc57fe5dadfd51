import TransitionGuards.Proofs.Candidates
import TransitionGuards.Proofs.NormalForm
import TransitionGuards.Proofs.Success

/-
  What a search that comes to an end has found.

  `Finds order f choices` describes the outcome of a search without its limits,
  clock and count: every run that ends follows it (`finds_of_search`), and
  without limits every run ends (`search_unbounded`). What is found makes the
  formula true (`Finds.holds`). If nothing is found, nothing makes it true
  (`Finds.refuted`), provided that the search began `Ready`: the formula in
  normal form, its variables listed, each with all its candidates. Assigning a
  value and passing over a variable keep a search ready.
-/

namespace TransitionGuards

/-- The outcome of a search over the variables in `order`: the choices it ends
with, or none. -/
inductive Finds : List (VarId × List Int64) → Formula → Option Assignment → Prop
  | yes (order : List (VarId × List Int64)) : Finds order (.const true) (some [])
  | no (order : List (VarId × List Int64)) : Finds order (.const false) none
  | exhausted {f : Formula} (undecided : ∀ b, f ≠ .const b) : Finds [] f none
  | skip {x : VarId} {values : List Int64} {rest : List (VarId × List Int64)} {f : Formula}
      {found : Option Assignment} (unused : f.mentions x = false) (next : Finds rest f found) :
      Finds ((x, values) :: rest) f found
  | choose {x : VarId} {values : List Int64} {rest : List (VarId × List Int64)} {f : Formula}
      {tried : List Int64} {v : Int64} {later : List Int64} {choices : Assignment}
      (used : f.mentions x = true) (split : values = tried ++ v :: later)
      (refuted : ∀ u ∈ tried, Finds rest (f.assign x u) none)
      (found : Finds rest (f.assign x v) (some choices)) :
      Finds ((x, values) :: rest) f (some ((x, v) :: choices))
  | refute {x : VarId} {values : List Int64} {rest : List (VarId × List Int64)} {f : Formula}
      (used : f.mentions x = true) (refuted : ∀ v ∈ values, Finds rest (f.assign x v) none) :
      Finds ((x, values) :: rest) f none

theorem Formula.isFalse_iff {f : Formula} : f.isFalse = true ↔ f = .const false := by
  unfold isFalse
  split
  · simp
  · next other => exact iff_of_false nofun other

section Runs
variable {limits : Limits} {clock : Clock} {x : VarId} {f : Formula} {rest order : List (VarId × List Int64)}

theorem tryValues_cons {explore : Formula → Nat → Except SolverError Finding} (v : Int64) (values : List Int64)
    (made : Nat) : tryValues limits clock x f explore (v :: values) made =
      limits.tick clock made >>= fun made =>
        if (f.assign x v).isFalse then tryValues limits clock x f explore values made
        else explore (f.assign x v) made >>= fun found =>
          match found.choices with
          | some choices => .ok ⟨some ((x, v) :: choices), found.decisions⟩
          | none => tryValues limits clock x f explore values found.decisions := by
  rw [tryValues]
  congr 1
  funext made
  split
  · next hf => rw [if_pos (Formula.isFalse_iff.2 hf)]
  · next hf => exact (if_neg (mt Formula.isFalse_iff.1 hf)).symm

/-- Trying the values that are left, after some have been refuted, follows
`Finds` if what it explores does. -/
theorem finds_of_tryValues {explore : Formula → Nat → Except SolverError Finding} (used : f.mentions x = true)
    (explored : ∀ g m r, explore g m = .ok r → Finds rest g r.choices) :
    ∀ (values tried : List Int64) {made : Nat} {r : Finding}, (∀ u ∈ tried, Finds rest (f.assign x u) none) →
      tryValues limits clock x f explore values made = .ok r →
      Finds ((x, tried ++ values) :: rest) f r.choices
  | [], tried, made, r, refuted, h => by
    cases h
    rw [List.append_nil]
    exact .refute used refuted
  | v :: values, tried, made, r, refuted, h => by
    -- a value without success joins those tried before
    have pass : ∀ {m : Nat}, Finds rest (f.assign x v) none →
        tryValues limits clock x f explore values m = .ok r →
        Finds ((x, tried ++ v :: values) :: rest) f r.choices := by
      intro m hv h
      rw [List.append_cons]
      apply finds_of_tryValues used explored values (tried ++ [v]) _ h
      intro u hu
      rcases List.mem_append.1 hu with hu | hu
      · exact refuted u hu
      · exact List.mem_singleton.1 hu ▸ hv
    rw [tryValues] at h
    obtain ⟨made', _, h⟩ := exists_of_bind_ok h
    split at h
    · next hf => exact pass (hf ▸ .no rest) h
    · obtain ⟨found, he, h⟩ := exists_of_bind_ok h
      have hv := explored _ _ _ he
      split at h
      · next choices hc =>
        cases h
        rw [hc] at hv
        exact .choose used rfl refuted hv
      · next hc =>
        rw [hc] at hv
        exact pass hv h

theorem search_nil (undecided : ∀ b, f ≠ .const b) (made : Nat) :
    search limits clock [] f made = .ok ⟨none, made⟩ := by
  rw [search]
  exact undecided

theorem search_cons (undecided : ∀ b, f ≠ .const b) (values : List Int64) (made : Nat) :
    search limits clock ((x, values) :: rest) f made =
      if f.mentions x then tryValues limits clock x f (fun g n => search limits clock rest g n) values made
      else search limits clock rest f made := by
  rw [search]
  exact undecided

/-- A search that ends follows `Finds`, whatever its limits and its clock. -/
theorem finds_of_search {made : Nat} {r : Finding} (h : search limits clock order f made = .ok r) :
    Finds order f r.choices := by
  induction order generalizing f made r with
  | nil =>
    by_cases hf : ∃ b, f = .const b
    · obtain ⟨b, rfl⟩ := hf
      cases h
      cases b
      · exact .no []
      · exact .yes []
    · have undecided : ∀ b, f ≠ .const b := fun b hb => hf ⟨b, hb⟩
      rw [search_nil undecided] at h
      cases h
      exact .exhausted undecided
  | cons e rest ih =>
    obtain ⟨x, values⟩ := e
    by_cases hf : ∃ b, f = .const b
    · obtain ⟨b, rfl⟩ := hf
      cases h
      cases b
      · exact .no _
      · exact .yes _
    · have undecided : ∀ b, f ≠ .const b := fun b hb => hf ⟨b, hb⟩
      rw [search_cons undecided] at h
      split at h
      · next used => exact finds_of_tryValues used (fun g m r => ih) values [] nofun h
      · next unused => exact .skip (eq_false_of_ne_true unused) (ih h)

/-! ## Without limits every search ends -/

theorem tick_unbounded (clock : Clock) (made : Nat) : Limits.unbounded.tick clock made = .ok (made + 1) := rfl

theorem tryValues_unbounded {explore : Formula → Nat → Except SolverError Finding}
    (ends : ∀ g m, ∃ r, explore g m = .ok r) : ∀ (values : List Int64) (made : Nat),
    ∃ r, tryValues .unbounded clock x f explore values made = .ok r
  | [], made => ⟨_, rfl⟩
  | v :: values, made => by
    rw [tryValues, tick_unbounded]
    simp only [bind, Except.bind]
    split
    · exact tryValues_unbounded ends values (made + 1)
    · obtain ⟨⟨choices, m⟩, he⟩ := ends (f.assign x v) (made + 1)
      rw [he]
      cases choices with
      | some choices => exact ⟨_, rfl⟩
      | none => exact tryValues_unbounded ends values m

theorem search_unbounded (clock : Clock) (order : List (VarId × List Int64)) (f : Formula) (made : Nat) :
    ∃ r, search .unbounded clock order f made = .ok r := by
  induction order generalizing f made with
  | nil =>
    by_cases hf : ∃ b, f = .const b
    · obtain ⟨b, rfl⟩ := hf
      exact ⟨_, rfl⟩
    · exact ⟨_, search_nil (fun b hb => hf ⟨b, hb⟩) made⟩
  | cons e rest ih =>
    by_cases hf : ∃ b, f = .const b
    · obtain ⟨b, rfl⟩ := hf
      exact ⟨_, rfl⟩
    · rw [search_cons fun b hb => hf ⟨b, hb⟩]
      split
      · exact tryValues_unbounded ih e.2 made
      · exact ih f made

end Runs

/-! ## What is found -/

namespace Finds
variable {order : List (VarId × List Int64)} {f : Formula} {found : Option Assignment} {choices : Assignment}

/-- The choices make the formula true, whatever the other variables are. -/
theorem holds (h : Finds order f found) (s : Values) :
    ∀ choices, found = some choices → (∀ e ∈ choices, s e.1 = e.2) → f.holds s = true := by
  induction h with
  | yes order => exact fun _ _ _ => rfl
  | no order => nofun
  | exhausted _ => nofun
  | skip _ _ ih => exact ih
  | @choose x values rest f tried v later choices used split refuted _ _ ih =>
    intro _ hc agrees
    cases hc
    have hx : s x = v := agrees _ (List.mem_cons_self ..)
    have := ih choices rfl fun e he => agrees e (List.mem_cons_of_mem _ he)
    rwa [Formula.holds_assign, ← hx, Function.update_eq_self] at this
  | refute _ _ _ => nofun

theorem sublist (h : Finds order f found) :
    ∀ choices, found = some choices → (choices.map (·.1)).Sublist (order.map (·.1)) := by
  induction h with
  | yes order =>
    intro _ hc
    cases hc
    exact List.nil_sublist _
  | no order => nofun
  | exhausted _ => nofun
  | skip _ _ ih => exact fun choices hc => (ih choices hc).cons _
  | choose _ _ _ _ _ ih =>
    intro _ hc
    cases hc
    exact (ih _ rfl).cons_cons _
  | refute _ _ _ => nofun

end Finds

/-! ## What a search refutes -/

/-- A search may begin: the formula is in normal form, and the variables of its
atoms are listed, each with the candidates that come from `atoms`. -/
structure Ready (atoms : List Atom) (order : List (VarId × List Int64)) (f : Formula) : Prop where
  normal : f.Normal
  listed : ∀ a ∈ f.atoms, a.var ∈ order.map (·.1)
  sub : ∀ a ∈ f.atoms, a ∈ atoms
  candidates : ∀ e ∈ order, e.2 = candidatesOf atoms e.1

namespace Ready
variable {atoms : List Atom} {order rest : List (VarId × List Int64)} {f : Formula} {x : VarId}
  {values : List Int64}

theorem assign (h : Ready atoms ((x, values) :: rest) f) (v : Int64) : Ready atoms rest (f.assign x v) where
  normal := .assign x v f
  listed a ha := by
    obtain ⟨ha, hx⟩ := Formula.mem_atoms_assign ha
    exact List.mem_of_ne_of_mem hx (h.listed a ha)
  sub a ha := h.sub a (Formula.mem_atoms_assign ha).1
  candidates e he := h.candidates e (List.mem_cons_of_mem _ he)

theorem skip (h : Ready atoms ((x, values) :: rest) f) (unused : f.mentions x = false) : Ready atoms rest f where
  normal := h.normal
  listed a ha := by
    have hx : a.var ≠ x := by
      intro hx
      rw [(Formula.mentions_iff x f).2 ⟨a, ha, hx⟩] at unused
      cases unused
    exact List.mem_of_ne_of_mem hx (h.listed a ha)
  sub := h.sub
  candidates e he := h.candidates e (List.mem_cons_of_mem _ he)

end Ready

/-- If a search that was ready finds nothing, the formula cannot hold. -/
theorem Finds.refuted {order : List (VarId × List Int64)} {f : Formula} {found : Option Assignment}
    {atoms : List Atom} (h : Finds order f found) (s : Values) :
    found = none → Ready atoms order f → f.holds s = false := by
  induction h with
  | yes order => nofun
  | no order => exact fun _ _ => rfl
  | exhausted undecided =>
    -- nothing listed, so no atom: a constant after all
    intro _ ready
    obtain ⟨b, hb⟩ := ready.normal.eq_const fun a ha => List.not_mem_nil (ready.listed a ha)
    exact absurd hb (undecided b)
  | skip unused _ ih => exact fun hn ready => ih hn (ready.skip unused)
  | choose _ _ _ _ _ _ => nofun
  | @refute x values rest f used refuted ih =>
    intro _ ready
    have hvalues : values = candidatesOf atoms x := ready.candidates (x, values) (List.mem_cons_self ..)
    apply Formula.fails_of_candidates ready.sub (x := x)
    rw [← hvalues]
    exact fun v hv => ih v hv rfl (ready.assign v)

end TransitionGuards
