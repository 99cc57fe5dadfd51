import TransitionGuards.Proofs.Assignments
import TransitionGuards.Proofs.NormalForm

/-
  Values put in one after another.

  `fill` puts values in for all the variables that have one, at once. Filling in
  twice is filling in once, with the later values where there were none before
  (`fill_fill`): what the first round folds away makes no difference to the second,
  as everything it leaves is in normal form (`Connective.fill_fold`). This is
  equality of formulas, not of what they mean.

  To assign is to fill in one value, so what is left after some choices is the
  formula filled in with all of them (`after_eq_fill`). It depends on the value
  chosen first for each variable and on nothing else, neither on the order of the
  choices nor on repeats.
-/

namespace TransitionGuards

namespace Formula

/-! ## Connectives -/

/-- What conjunction and disjunction have in common: a constant that makes no
difference among the parts, a constructor, and the folding of parts into one
formula. -/
structure Connective where
  unit : Bool
  kind : List Formula → Formula
  fold : List Formula → Formula
  kind_inj : ∀ {fs gs}, kind fs = kind gs → fs = gs
  kind_ne_const : ∀ fs b, kind fs ≠ .const b
  folded : ∀ fs, Folded unit kind fs (fold fs)
  two_le : ∀ fs, (kind fs).Normal → 2 ≤ fs.length
  parts_solid : ∀ fs, (kind fs).Normal → ∀ g ∈ fs, g.Solid ∧ ∀ hs, g ≠ kind hs
  fill_kind : ∀ value fs, fill value (kind fs) = fold (fs.map (fill value))

def conjunction : Connective where
  unit := true
  kind := .and
  fold := conj
  kind_inj h := Formula.and.inj h
  kind_ne_const _ _ := nofun
  folded := folded_conj
  two_le _ normal := by cases normal.solid nofun with | and several _ _ => exact several
  parts_solid _ := Normal.parts_and
  fill_kind _ := fill_and

def disjunction : Connective where
  unit := false
  kind := .or
  fold := disj
  kind_inj h := Formula.or.inj h
  kind_ne_const _ _ := nofun
  folded := folded_disj
  two_le _ normal := by cases normal.solid nofun with | or several _ _ => exact several
  parts_solid _ := Normal.parts_or
  fill_kind _ := fill_or

namespace Connective
variable {c : Connective} {fs gs hs front rest : List Formula} {f g : Formula}

/-! ### Folding follows from splicing -/

theorem notMem_of_spliced (h : Spliced c.unit c.kind fs gs) : .const (!c.unit) ∉ fs := by
  induction h with
  | nil => exact List.not_mem_nil
  | drop _ ih => simp [ih]
  | splice _ ih => simp [ih, (c.kind_ne_const _ _).symm]
  | keep undecided _ _ ih => simp [ih, (undecided _).symm]

theorem spliced_unique (h : Spliced c.unit c.kind fs gs) (h' : Spliced c.unit c.kind fs hs) : gs = hs := by
  -- the first part decides which rule applies: the rules exclude one another
  induction h generalizing hs with
  | nil =>
    cases h'
    rfl
  | drop _ ih =>
    generalize hf : Formula.const c.unit = f at h'
    cases h' with
    | drop more => exact ih more
    | splice _ => exact absurd hf.symm (c.kind_ne_const _ _)
    | keep undecided _ _ => exact absurd hf.symm (undecided _)
  | @splice inner _ _ _ ih =>
    generalize hf : c.kind inner = f at h'
    cases h' with
    | drop _ => exact absurd hf (c.kind_ne_const _ _)
    | splice more => rw [c.kind_inj hf, ih more]
    | keep _ other _ => exact absurd hf.symm (other _)
  | keep undecided other _ ih =>
    cases h' with
    | drop _ => exact absurd rfl (undecided _)
    | splice _ => exact absurd rfl (other _)
    | keep _ _ more => rw [ih more]

theorem spliced_append (h : Spliced c.unit c.kind fs gs) (h' : Spliced c.unit c.kind front rest) :
    Spliced c.unit c.kind (fs ++ front) (gs ++ rest) := by
  induction h with
  | nil => exact h'
  | drop _ ih => exact .drop ih
  | splice _ ih => exact List.append_assoc .. ▸ .splice ih
  | keep undecided other _ ih => exact .keep undecided other ih

/-- Parts can be spliced unless one of them settles the connective. -/
theorem exists_spliced (unsettled : .const (!c.unit) ∉ fs) : ∃ gs, Spliced c.unit c.kind fs gs := by
  have folded := c.folded fs
  generalize c.fold fs = g at folded
  cases folded with
  | settled mem => exact absurd mem unsettled
  | nothing spliced => exact ⟨_, spliced⟩
  | single spliced => exact ⟨_, spliced⟩
  | several _ spliced => exact ⟨_, spliced⟩

theorem fold_of_mem (h : .const (!c.unit) ∈ fs) : c.fold fs = .const (!c.unit) := by
  have folded := c.folded fs
  generalize c.fold fs = g at folded
  cases folded with
  | settled _ => rfl
  | nothing spliced => exact absurd h (notMem_of_spliced spliced)
  | single spliced => exact absurd h (notMem_of_spliced spliced)
  | several _ spliced => exact absurd h (notMem_of_spliced spliced)

/-- The connective of parts that splicing has left. -/
def close (c : Connective) : List Formula → Formula
  | [] => .const c.unit
  | [f] => f
  | fs => c.kind fs

theorem close_of_two_le : ∀ {fs : List Formula}, 2 ≤ fs.length → c.close fs = c.kind fs
  | _ :: _ :: _, _ => rfl

theorem fold_of_spliced (h : Spliced c.unit c.kind fs gs) : c.fold fs = c.close gs := by
  have folded := c.folded fs
  generalize c.fold fs = g at folded
  cases folded with
  | settled mem => exact absurd mem (notMem_of_spliced h)
  | nothing spliced => rw [spliced_unique h spliced, close]
  | single spliced => rw [spliced_unique h spliced, close]
  | several two spliced => rw [spliced_unique h spliced, close_of_two_le two]

/-- What splicing has left of formulas in normal form is spliced into the same
again once it has been joined. -/
theorem spliced_close (normal : ∀ f ∈ fs, f.Normal) (h : Spliced c.unit c.kind fs gs) :
    Spliced c.unit c.kind [c.close gs] gs := by
  have left := h.solid c.parts_solid normal
  match gs with
  | [] => exact .drop .nil
  | [f] =>
    obtain ⟨solid, other⟩ := left f (List.mem_singleton_self f)
    refine .keep ?_ other .nil
    rintro b rfl
    cases solid
  | f :: g :: rest =>
    have joined : Spliced c.unit c.kind [c.kind (f :: g :: rest)] (f :: g :: rest ++ []) := .splice .nil
    rw [List.append_nil] at joined
    rwa [close_of_two_le (by simp)]

/-- Folding some of the parts first makes no difference. -/
theorem fold_append_fold (normal : ∀ f ∈ fs, f.Normal) :
    c.fold (front ++ c.fold fs :: rest) = c.fold (front ++ (fs ++ rest)) := by
  -- either a part settles the connective on both sides, or both come from splicing
  by_cases settled : .const (!c.unit) ∈ front ++ (fs ++ rest)
  · have settled' : .const (!c.unit) ∈ front ++ c.fold fs :: rest := by
      rcases List.mem_append.1 settled with h | h
      · exact List.mem_append_left _ h
      · apply List.mem_append_right
        rcases List.mem_append.1 h with h | h
        · exact fold_of_mem h ▸ List.mem_cons_self ..
        · exact List.mem_cons_of_mem _ h
    rw [fold_of_mem settled, fold_of_mem settled']
  · simp only [List.mem_append, not_or] at settled
    obtain ⟨before, hbefore⟩ := exists_spliced settled.1
    obtain ⟨between, hbetween⟩ := exists_spliced settled.2.1
    obtain ⟨behind, hbehind⟩ := exists_spliced settled.2.2
    have once : Spliced c.unit c.kind (c.fold fs :: rest) (between ++ behind) := by
      rw [fold_of_spliced hbetween]
      exact spliced_append (spliced_close normal hbetween) hbehind
    rw [fold_of_spliced (spliced_append hbefore once),
      fold_of_spliced (spliced_append hbefore (spliced_append hbetween hbehind))]

theorem fold_singleton (normal : f.Normal) : c.fold [f] = f := by
  rcases normal with ⟨b, rfl⟩ | solid
  · by_cases hb : b = c.unit
    · rw [hb]
      exact fold_of_spliced (.drop .nil)
    · rw [Bool.eq_not_of_ne hb]
      exact fold_of_mem (List.mem_singleton_self _)
  · have undecided (b : Bool) : f ≠ .const b := by
      rintro rfl
      cases solid
    by_cases other : ∃ inner, f = c.kind inner
    · obtain ⟨inner, rfl⟩ := other
      rw [fold_of_spliced (.splice .nil), List.append_nil, close_of_two_le (c.two_le inner (.inr solid))]
    · exact fold_of_spliced (.keep undecided (fun hs h => other ⟨hs, h⟩) .nil)

/-! ### Filling in what has been folded -/

/-- Splicing may come before filling in or after. -/
theorem fold_fill_of_spliced (h : Spliced c.unit c.kind fs gs) (value : VarId → Option Int64) :
    ∀ front, c.fold (front ++ fs.map (fill value)) = c.fold (front ++ gs.map (fill value)) := by
  induction h with
  | nil => exact fun _ => rfl
  | @drop fs gs _ ih =>
    intro front
    have dropped : c.fold (front ++ c.fold [] :: fs.map (fill value)) = c.fold (front ++ ([] ++ fs.map (fill value))) :=
      fold_append_fold nofun
    rw [fold_of_spliced .nil] at dropped
    exact dropped.trans (ih front)
  | @splice inner fs gs _ ih =>
    intro front
    have filled : ∀ f ∈ inner.map (fill value), f.Normal := by
      simpa using fun f _ => Normal.fill value f
    rw [List.map_cons, c.fill_kind, fold_append_fold filled, ← List.append_assoc, ih, List.append_assoc,
      List.map_append]
  | @keep f fs gs _ _ _ ih =>
    intro front
    simpa using ih (front ++ [f.fill value])

theorem fill_fold (value : VarId → Option Int64) (fs : List Formula) :
    (c.fold fs).fill value = c.fold (fs.map (fill value)) := by
  by_cases settled : .const (!c.unit) ∈ fs
  · have settled' : .const (!c.unit) ∈ fs.map (fill value) := List.mem_map_of_mem (f := fill value) settled
    rw [fold_of_mem settled, fold_of_mem settled', fill_const]
  · obtain ⟨gs, spliced⟩ := exists_spliced settled
    have filled := fold_fill_of_spliced spliced value []
    rw [List.nil_append, List.nil_append] at filled
    rw [fold_of_spliced spliced, filled]
    match gs with
    | [] => rw [close, fill_const, List.map_nil, fold_of_spliced .nil, close]
    | [f] => rw [close, List.map_singleton, fold_singleton (.fill value f)]
    | f :: g :: rest => rw [close_of_two_le (by simp), c.fill_kind]

end Connective

theorem Normal.neg_neg {f : Formula} (normal : f.Normal) : f.neg.neg = f := by
  rcases normal with ⟨b, rfl⟩ | solid
  · rw [Formula.neg, Formula.neg, Bool.not_not]
  · cases solid with
    | @not g solid single =>
      show g.neg = .not g
      cases solid with
      | not _ _ => exact absurd rfl (single _)
      | atom _ | and _ _ _ | or _ _ _ => rfl
    | atom _ | and _ _ _ | or _ _ _ => rfl

theorem fill_neg (value : VarId → Option Int64) (f : Formula) : f.neg.fill value = (f.fill value).neg := by
  cases f with
  | not f => exact (Normal.fill value f).neg_neg.symm
  | const b | atom a | and parts | or parts => rfl

/-! ## Filling in twice -/

/-- Filling in twice is filling in once, where the values of the first round come
before those of the second. -/
theorem fill_fill (value later : VarId → Option Int64) (f : Formula) :
    (f.fill value).fill later = f.fill fun x => (value x).or (later x) := by
  induction f with
  | const b => rfl
  | atom a =>
    cases h : value a.var with
    | some v => simp [fill, h]
    | none => simp [fill, h]
  | not f ih => rw [fill_not, fill_neg, ih, fill_not]
  | and parts ih =>
    have filled := Connective.fill_fold (c := conjunction) later (parts.map (fill value))
    rw [fill_and, fill_and]
    refine filled.trans (congrArg conj ?_)
    rw [List.map_map]
    exact List.map_congr_left ih
  | or parts ih =>
    have filled := Connective.fill_fold (c := disjunction) later (parts.map (fill value))
    rw [fill_or, fill_or]
    refine filled.trans (congrArg disj ?_)
    rw [List.map_map]
    exact List.map_congr_left ih

end Formula

/-! ## Choices one after another -/

theorem Assignment.get?_singleton (x : VarId) (v : Int64) : get? [(x, v)] = Formula.only x v :=
  funext (get?_cons x v [])

namespace Formula
variable {f : Formula} {s t : Assignment}

/-- What is left of the formula after the choices, made one after another. -/
def after (f : Formula) (choices : Assignment) : Formula := choices.foldl (fun g e => g.assign e.1 e.2) f

/-- One after another comes to the same as all at once. -/
theorem after_eq_fill : ∀ {s : Assignment} (f : Formula), s ≠ [] → f.after s = f.fill s.get?
  | [(x, v)], f, _ => by
    rw [Assignment.get?_singleton, ← assign_eq_fill]
    rfl
  | (x, v) :: e :: s, f, _ => by
    have split (y : VarId) : Assignment.get? ((x, v) :: e :: s) y = (only x v y).or (Assignment.get? (e :: s) y) := by
      rw [← Assignment.get?_singleton]
      exact Assignment.get?_append [(x, v)] (e :: s) y
    calc f.after ((x, v) :: e :: s)
      _ = (f.assign x v).after (e :: s) := rfl
      _ = (f.fill (only x v)).fill (Assignment.get? (e :: s)) := by
        rw [after_eq_fill _ (List.cons_ne_nil e s), assign_eq_fill]
      _ = f.fill (Assignment.get? ((x, v) :: e :: s)) := by rw [fill_fill, funext split]

theorem after_congr (same : ∀ x, s.get? x = t.get? x) (f : Formula) : f.after s = f.after t := by
  by_cases hs : s = []
  · have ht : t = [] := by
      apply Assignment.eq_nil_of_get?
      intro x
      rw [← same, hs]
      rfl
    rw [hs, ht]
  · have ht : t ≠ [] := by
      rintro rfl
      exact hs (Assignment.eq_nil_of_get? same)
    rw [after_eq_fill f hs, after_eq_fill f ht, funext same]

theorem after_append (f : Formula) (s t : Assignment) : f.after (s ++ t) = (f.after s).after t :=
  List.foldl_append

/-- For every formula, folded or not, the formulas that are left are the same to the
letter: values put in for two variables may change places, of two values put in for
one variable only the first counts, and so what is left after any choices depends
on the value first chosen for each variable, not on the order of the choices. -/
theorem assign_in_any_order :
    (∀ (f : Formula) (x y : VarId) (v w : Int64), x ≠ y → (f.assign x v).assign y w = (f.assign y w).assign x v) ∧
    (∀ (f : Formula) (x : VarId) (v w : Int64), (f.assign x v).assign x w = f.assign x v) ∧
    ∀ (f : Formula) (s t : Assignment), (∀ x, s.get? x = t.get? x) → f.after s = f.after t := by
  -- all three compare what two lists of choices say of each variable
  refine ⟨fun f x y v w other => ?_, fun f x v w => ?_, fun f s t same => after_congr same f⟩
  · have same : ∀ z, Assignment.get? [(x, v), (y, w)] z = Assignment.get? [(y, w), (x, v)] z := by
      intro z
      simp only [Assignment.get?_cons]
      by_cases hx : x = z
      · have hy : y ≠ z := fun hy => other (hx.trans hy.symm)
        simp [hx, hy]
      · simp [hx]
    exact after_congr same f
  · have same : ∀ z, Assignment.get? [(x, v), (x, w)] z = Assignment.get? [(x, v)] z := by
      intro z
      simp only [Assignment.get?_cons]
      by_cases hx : x = z <;> simp [hx]
    exact after_congr same f

/-- A value for the first variable leaves a conjunction of a disjunction, inside a
conjunction; one for the second settles a part of what is never folded otherwise. -/
theorem assign_in_any_order_collapsing :
    let x : VarId := ⟨0⟩
    let y : VarId := ⟨1⟩
    let a := compare ⟨2⟩ .gt 3
    let b := compare ⟨2⟩ .lt 9
    let f : Formula :=
      .and [.or [.and [a, b], compare x .eq 1], .not (.not (.not (.or [compare y .ne 7, .and [b]]))), .and []]
    f.assign x 0 = .and [a, b, .not (.or [compare y .ne 7, b])] ∧
    (f.assign x 0).assign y 7 = .and [a, b, .not b] ∧
    (f.assign y 7).assign x 0 = .and [a, b, .not b] ∧
    (f.assign x 0).assign x 1 = f.assign x 0 ∧
    f.after [(y, 7), (x, 0), (y, 8), (x, 1)] = .and [a, b, .not b] := by
  intro x y a b f
  obtain ⟨commute, first, only⟩ := assign_in_any_order
  have left : (f.assign x 0).assign y 7 = .and [a, b, .not b] := rfl
  refine ⟨rfl, left, (commute f x y 0 7 (by decide)).symm.trans left, first f x 0 1, ?_⟩
  refine (only f _ [(x, 0), (y, 7)] fun z => ?_).trans left
  simp only [Assignment.get?_cons]
  by_cases hx : x = z
  · have hy : y ≠ z := by
      rw [← hx]
      decide
    simp [hx, hy]
  · by_cases hy : y = z <;> simp [hx, hy]

end Formula

end TransitionGuards
