import TransitionGuards.Formula
import Mathlib.Logic.Function.Basic

/-
  The truth value of a formula when every variable has a value.

  `holds` is that value by structure. `eval` computes it from a partial
  assignment exactly when every variable that occurs has a value
  (`eval_eq_holds`, `isSome_eval`). Folding does not change it: `conj`, `disj`
  and `neg` hold as the connectives they stand for, and a formula with `v` put
  in for `x` holds as the formula does where `x` is `v` (`holds_assign`).
  Folding brings in no atom. What `conj` and `disj` can come to is said once for
  both (`folded_conj`, `folded_disj`).
-/

namespace TransitionGuards

theorem all_congr_mem {α : Type} {p q : α → Bool} {l : List α} (h : ∀ a ∈ l, p a = q a) : l.all p = l.all q := by
  rw [Bool.eq_iff_iff, List.all_eq_true, List.all_eq_true]
  exact forall₂_congr fun a ha => by rw [h a ha]

theorem any_congr_mem {α : Type} {p q : α → Bool} {l : List α} (h : ∀ a ∈ l, p a = q a) : l.any p = l.any q := by
  rw [← Bool.not_inj_iff, List.not_any_eq_all_not, List.not_any_eq_all_not]
  exact all_congr_mem fun a ha => by rw [h a ha]

/-- A value for every variable. -/
abbrev Values := VarId → Int64

def Atom.holds (s : Values) (a : Atom) : Bool := a.comparator.holds (s a.var) a.value

namespace Formula

@[induction_eliminator]
theorem induction {motive : Formula → Prop} (const : ∀ b, motive (.const b)) (atom : ∀ a, motive (.atom a))
    (not : ∀ f, motive f → motive (.not f)) (and : ∀ parts, (∀ f ∈ parts, motive f) → motive (.and parts))
    (or : ∀ parts, (∀ f ∈ parts, motive f) → motive (.or parts)) : ∀ f, motive f
  | .const b => const b
  | .atom a => atom a
  | .not f => not f (induction const atom not and or f)
  | .and parts => and parts fun f _ => induction const atom not and or f
  | .or parts => or parts fun f _ => induction const atom not and or f

mutual

/-- Whether the formula holds. -/
def holds (s : Values) : Formula → Bool
  | .const b => b
  | .atom a => a.holds s
  | .not f => !holds s f
  | .and parts => holdsAll s parts
  | .or parts => holdsAny s parts

def holdsAll (s : Values) : List Formula → Bool
  | [] => true
  | f :: rest => holds s f && holdsAll s rest

def holdsAny (s : Values) : List Formula → Bool
  | [] => false
  | f :: rest => holds s f || holdsAny s rest

end

variable {s t : Values} {value : VarId → Option Int64}

@[simp] theorem holdsAll_eq : ∀ fs : List Formula, holdsAll s fs = fs.all (holds s)
  | [] => rfl
  | f :: rest => by rw [holdsAll, holdsAll_eq rest, List.all_cons]

@[simp] theorem holdsAny_eq : ∀ fs : List Formula, holdsAny s fs = fs.any (holds s)
  | [] => rfl
  | f :: rest => by rw [holdsAny, holdsAny_eq rest, List.any_cons]

@[simp] theorem holds_const (b : Bool) : (const b).holds s = b := rfl
@[simp] theorem holds_atom (a : Atom) : (atom a).holds s = a.holds s := rfl
@[simp] theorem holds_not (f : Formula) : (not f).holds s = !f.holds s := rfl
@[simp] theorem holds_and (fs : List Formula) : (and fs).holds s = fs.all (holds s) := holdsAll_eq fs
@[simp] theorem holds_or (fs : List Formula) : (or fs).holds s = fs.any (holds s) := holdsAny_eq fs

/-! ## The atoms of a formula -/

@[simp] theorem atomsAll_eq : ∀ fs : List Formula, atomsAll fs = fs.flatMap atoms
  | [] => rfl
  | f :: rest => by rw [atomsAll, atomsAll_eq rest, List.flatMap_cons]

@[simp] theorem atoms_const (b : Bool) : (const b).atoms = [] := rfl
@[simp] theorem atoms_atom (a : Atom) : (atom a).atoms = [a] := rfl
@[simp] theorem atoms_not (f : Formula) : (not f).atoms = f.atoms := rfl
@[simp] theorem atoms_and (fs : List Formula) : (and fs).atoms = fs.flatMap atoms := atomsAll_eq fs
@[simp] theorem atoms_or (fs : List Formula) : (or fs).atoms = fs.flatMap atoms := atomsAll_eq fs

@[simp] theorem mentionsAny_eq (x : VarId) : ∀ fs : List Formula, mentionsAny x fs = fs.any (mentions x)
  | [] => rfl
  | f :: rest => by rw [mentionsAny, mentionsAny_eq x rest, List.any_cons]

theorem mentions_iff (x : VarId) (f : Formula) : f.mentions x = true ↔ ∃ a ∈ f.atoms, a.var = x := by
  induction f with
  | const b => simp [mentions]
  | atom a => simp [mentions]
  | not f ih => simpa [mentions] using ih
  | and parts ih | or parts ih =>
    simp only [mentions, mentionsAny_eq, List.any_eq_true, atoms_and, atoms_or, List.mem_flatMap]
    constructor
    · intro h
      obtain ⟨f, hf, h⟩ := h
      obtain ⟨a, ha, hx⟩ := (ih f hf).1 h
      exact ⟨a, ⟨f, hf, ha⟩, hx⟩
    · intro h
      obtain ⟨a, ⟨f, hf, ha⟩, hx⟩ := h
      exact ⟨f, hf, (ih f hf).2 ⟨a, ha, hx⟩⟩

/-! ## Evaluation under a partial assignment -/

theorem isSome_evalAll : ∀ fs : List Formula,
    (evalAll value fs).isSome = fs.all fun f => (f.eval value).isSome
  | [] => rfl
  | f :: rest => by
    rw [evalAll, List.all_cons, ← isSome_evalAll rest]
    cases f.eval value <;> simp

theorem isSome_evalAny : ∀ fs : List Formula,
    (evalAny value fs).isSome = fs.all fun f => (f.eval value).isSome
  | [] => rfl
  | f :: rest => by
    rw [evalAny, List.all_cons, ← isSome_evalAny rest]
    cases f.eval value <;> simp

/-- A formula has a truth value exactly if every variable in it has a value. -/
theorem isSome_eval (f : Formula) : (f.eval value).isSome ↔ ∀ a ∈ f.atoms, (value a.var).isSome := by
  induction f with
  | const b => simp [eval]
  | atom a => simp [eval]
  | not f ih => simpa [eval] using ih
  | and parts ih | or parts ih =>
    simp only [eval, isSome_evalAll, isSome_evalAny, List.all_eq_true, atoms_and, atoms_or, List.mem_flatMap]
    constructor
    · rintro h a ⟨f, hf, ha⟩
      exact (ih f hf).1 (h f hf) a ha
    · intro h f hf
      exact (ih f hf).2 fun a ha => h a ⟨f, hf, ha⟩

theorem evalAll_eq_all : ∀ fs : List Formula, (∀ f ∈ fs, f.eval value = some (f.holds s)) →
    evalAll value fs = some (fs.all (holds s))
  | [], _ => rfl
  | f :: rest, h => by
    rw [evalAll, h f (List.mem_cons_self ..), evalAll_eq_all rest fun g hg => h g (List.mem_cons_of_mem _ hg)]
    rfl

theorem evalAny_eq_any : ∀ fs : List Formula, (∀ f ∈ fs, f.eval value = some (f.holds s)) →
    evalAny value fs = some (fs.any (holds s))
  | [], _ => rfl
  | f :: rest, h => by
    rw [evalAny, h f (List.mem_cons_self ..), evalAny_eq_any rest fun g hg => h g (List.mem_cons_of_mem _ hg)]
    rfl

/-- Where the assignment agrees with `s`, evaluation says what holds. -/
theorem eval_eq_holds {f : Formula} (h : ∀ a ∈ f.atoms, value a.var = some (s a.var)) :
    f.eval value = some (f.holds s) := by
  induction f with
  | const b => rfl
  | atom a => simp [eval, h a (List.mem_singleton_self a), Atom.holds]
  | not f ih => rw [eval, ih h]; rfl
  | and parts ih =>
    rw [eval, holds_and]
    exact evalAll_eq_all parts fun f hf => ih f hf fun a ha => h a (by simpa using ⟨f, hf, ha⟩)
  | or parts ih =>
    rw [eval, holds_or]
    exact evalAny_eq_any parts fun f hf => ih f hf fun a ha => h a (by simpa using ⟨f, hf, ha⟩)

theorem eval_total (s : Values) (f : Formula) : f.eval (fun x => some (s x)) = some (f.holds s) :=
  eval_eq_holds fun _ _ => rfl

/-- A truth value is the one under every completion of the assignment. -/
theorem holds_of_eval {f : Formula} {b : Bool} (h : f.eval value = some b)
    (hs : ∀ x v, value x = some v → s x = v) : f.holds s = b := by
  -- there is a truth value, so all the variables met have values
  have defined := (isSome_eval f).1 (by rw [h]; rfl)
  have he : f.eval value = some (f.holds s) := by
    apply eval_eq_holds
    intro a ha
    obtain ⟨v, hv⟩ := Option.isSome_iff_exists.1 (defined a ha)
    rw [hv, hs a.var v hv]
  exact Option.some.inj (he.symm.trans h)

/-! ## Folding -/

theorem all_conjuncts (fs : List Formula) :
    fs.all (holds s) = ((conjuncts fs).map (·.all (holds s))).getD false := by
  fun_induction conjuncts fs with
  | case1 => rfl
  | case2 rest ih => simpa using ih
  | case3 rest => simp
  | case4 inner rest ih => cases h : conjuncts rest <;> simp [h, ih]
  | case5 f rest _ _ _ ih => cases h : conjuncts rest <;> simp [h, ih]

@[simp] theorem holds_conj (fs : List Formula) : (conj fs).holds s = fs.all (holds s) := by
  rw [all_conjuncts, conj]
  rcases conjuncts fs with _ | _ | ⟨f, _ | ⟨g, rest⟩⟩ <;> simp

theorem any_disjuncts (fs : List Formula) :
    fs.any (holds s) = ((disjuncts fs).map (·.any (holds s))).getD true := by
  fun_induction disjuncts fs with
  | case1 => rfl
  | case2 rest ih => simpa using ih
  | case3 rest => simp
  | case4 inner rest ih => cases h : disjuncts rest <;> simp [h, ih]
  | case5 f rest _ _ _ ih => cases h : disjuncts rest <;> simp [h, ih]

@[simp] theorem holds_disj (fs : List Formula) : (disj fs).holds s = fs.any (holds s) := by
  rw [any_disjuncts, disj]
  rcases disjuncts fs with _ | _ | ⟨f, _ | ⟨g, rest⟩⟩ <;> simp

@[simp] theorem holds_neg (f : Formula) : f.neg.holds s = !f.holds s := by
  cases f <;> simp [neg]

@[simp] theorem assignAll_eq (x : VarId) (v : Int64) : ∀ fs : List Formula,
    assignAll x v fs = fs.map (assign x v)
  | [] => rfl
  | f :: rest => by rw [assignAll, assignAll_eq x v rest, List.map_cons]

/-- Putting `v` in for `x` is the same as giving `x` the value `v`. -/
theorem holds_assign (s : Values) (x : VarId) (v : Int64) (f : Formula) :
    (f.assign x v).holds s = f.holds (Function.update s x v) := by
  induction f with
  | const b => rfl
  | atom a =>
    by_cases hx : a.var = x
    · simp [assign, hx, Atom.holds]
    · simp [assign, hx, Atom.holds]
  | not f ih => simp [assign, ih]
  | and parts ih =>
    rw [assign, assignAll_eq, holds_conj, holds_and, List.all_map]
    exact all_congr_mem ih
  | or parts ih =>
    rw [assign, assignAll_eq, holds_disj, holds_or, List.any_map]
    exact any_congr_mem ih

/-! ## Splicing -/

/-- What a connective makes of its parts: the constant `unit` is dropped, a part
of the same kind is replaced by its own parts, any other is kept. -/
inductive Spliced (unit : Bool) (kind : List Formula → Formula) : List Formula → List Formula → Prop
  | nil : Spliced unit kind [] []
  | drop {fs gs : List Formula} (more : Spliced unit kind fs gs) : Spliced unit kind (.const unit :: fs) gs
  | splice {inner fs gs : List Formula} (more : Spliced unit kind fs gs) :
      Spliced unit kind (kind inner :: fs) (inner ++ gs)
  | keep {f : Formula} {fs gs : List Formula} (undecided : ∀ b, f ≠ .const b) (other : ∀ hs, f ≠ kind hs)
      (more : Spliced unit kind fs gs) : Spliced unit kind (f :: fs) (f :: gs)

theorem spliced_conjuncts {fs gs : List Formula} (h : conjuncts fs = some gs) : Spliced true .and fs gs := by
  fun_induction conjuncts fs generalizing gs with
  | case1 =>
    cases h
    exact .nil
  | case2 rest ih => exact .drop (ih h)
  | case3 rest => cases h
  | case4 inner rest ih =>
    obtain ⟨hs, hr, rfl⟩ := Option.map_eq_some_iff.1 h
    exact .splice (ih hr)
  | case5 f rest notTrue notFalse notAnd ih =>
    obtain ⟨hs, hr, rfl⟩ := Option.map_eq_some_iff.1 h
    refine .keep (fun b => ?_) notAnd (ih hr)
    cases b
    · exact notFalse
    · exact notTrue

theorem spliced_disjuncts {fs gs : List Formula} (h : disjuncts fs = some gs) : Spliced false .or fs gs := by
  fun_induction disjuncts fs generalizing gs with
  | case1 =>
    cases h
    exact .nil
  | case2 rest ih => exact .drop (ih h)
  | case3 rest => cases h
  | case4 inner rest ih =>
    obtain ⟨hs, hr, rfl⟩ := Option.map_eq_some_iff.1 h
    exact .splice (ih hr)
  | case5 f rest notFalse notTrue notOr ih =>
    obtain ⟨hs, hr, rfl⟩ := Option.map_eq_some_iff.1 h
    refine .keep (fun b => ?_) notOr (ih hr)
    cases b
    · exact notFalse
    · exact notTrue

theorem const_false_mem_of_conjuncts {fs : List Formula} (h : conjuncts fs = none) : .const false ∈ fs := by
  fun_induction conjuncts fs with
  | case1 => cases h
  | case2 rest ih => exact List.mem_cons_of_mem _ (ih h)
  | case3 rest => exact List.mem_cons_self ..
  | case4 inner rest ih => exact List.mem_cons_of_mem _ (ih (Option.map_eq_none_iff.1 h))
  | case5 f rest _ _ _ ih => exact List.mem_cons_of_mem _ (ih (Option.map_eq_none_iff.1 h))

theorem const_true_mem_of_disjuncts {fs : List Formula} (h : disjuncts fs = none) : .const true ∈ fs := by
  fun_induction disjuncts fs with
  | case1 => cases h
  | case2 rest ih => exact List.mem_cons_of_mem _ (ih h)
  | case3 rest => exact List.mem_cons_self ..
  | case4 inner rest ih => exact List.mem_cons_of_mem _ (ih (Option.map_eq_none_iff.1 h))
  | case5 f rest _ _ _ ih => exact List.mem_cons_of_mem _ (ih (Option.map_eq_none_iff.1 h))

/-- What a connective of the parts comes to: the constant that settles it, if it is
among them, and otherwise the connective of what splicing leaves, no parts making
the constant `unit` and one part standing for itself. -/
inductive Folded (unit : Bool) (kind : List Formula → Formula) (fs : List Formula) : Formula → Prop
  | settled (mem : .const (!unit) ∈ fs) : Folded unit kind fs (.const !unit)
  | nothing (spliced : Spliced unit kind fs []) : Folded unit kind fs (.const unit)
  | single {f : Formula} (spliced : Spliced unit kind fs [f]) : Folded unit kind fs f
  | several {gs : List Formula} (two : 2 ≤ gs.length) (spliced : Spliced unit kind fs gs) :
      Folded unit kind fs (kind gs)

theorem folded_conj (fs : List Formula) : Folded true .and fs (conj fs) := by
  cases h : conjuncts fs with
  | none =>
    rw [conj, h]
    exact .settled (const_false_mem_of_conjuncts h)
  | some gs =>
    have spliced := spliced_conjuncts h
    rw [conj, h]
    rcases gs with _ | ⟨f, _ | ⟨g, rest⟩⟩
    · exact .nothing spliced
    · exact .single spliced
    · exact .several (by simp) spliced

theorem folded_disj (fs : List Formula) : Folded false .or fs (disj fs) := by
  cases h : disjuncts fs with
  | none =>
    rw [disj, h]
    exact .settled (const_true_mem_of_disjuncts h)
  | some gs =>
    have spliced := spliced_disjuncts h
    rw [disj, h]
    rcases gs with _ | ⟨f, _ | ⟨g, rest⟩⟩
    · exact .nothing spliced
    · exact .single spliced
    · exact .several (by simp) spliced

/-! ## Folding brings in no atom -/

theorem Spliced.atoms_eq {unit : Bool} {kind : List Formula → Formula} {fs gs : List Formula}
    (h : Spliced unit kind fs gs) (parts : ∀ inner, (kind inner).atoms = inner.flatMap atoms) :
    gs.flatMap atoms = fs.flatMap atoms := by
  induction h with
  | nil => rfl
  | drop _ ih => simpa using ih
  | splice _ ih => simp [parts, ih]
  | keep _ _ _ ih => simp [ih]

theorem Folded.atoms_eq {unit : Bool} {kind : List Formula → Formula} {fs : List Formula} {g : Formula}
    (h : Folded unit kind fs g) (parts : ∀ inner, (kind inner).atoms = inner.flatMap atoms) :
    g = const (!unit) ∨ g.atoms = fs.flatMap atoms := by
  cases h with
  | settled _ => exact .inl rfl
  | nothing spliced => exact .inr (spliced.atoms_eq parts)
  | single spliced => exact .inr (by simpa using spliced.atoms_eq parts)
  | several _ spliced => exact .inr ((parts _).trans (spliced.atoms_eq parts))

theorem atoms_conj (fs : List Formula) : conj fs = const false ∨ (conj fs).atoms = fs.flatMap atoms :=
  (folded_conj fs).atoms_eq atoms_and

theorem atoms_disj (fs : List Formula) : disj fs = const true ∨ (disj fs).atoms = fs.flatMap atoms :=
  (folded_disj fs).atoms_eq atoms_or

theorem mem_atoms_conj {fs : List Formula} {a : Atom} (h : a ∈ (conj fs).atoms) : ∃ f ∈ fs, a ∈ f.atoms := by
  rcases atoms_conj fs with e | e
  · rw [e] at h; cases h
  · rw [e] at h; exact List.mem_flatMap.1 h

theorem mem_atoms_disj {fs : List Formula} {a : Atom} (h : a ∈ (disj fs).atoms) : ∃ f ∈ fs, a ∈ f.atoms := by
  rcases atoms_disj fs with e | e
  · rw [e] at h; cases h
  · rw [e] at h; exact List.mem_flatMap.1 h

@[simp] theorem atoms_neg (f : Formula) : f.neg.atoms = f.atoms := by
  cases f <;> simp [neg]

theorem mem_atoms_assign {x : VarId} {v : Int64} {f : Formula} {a : Atom} (h : a ∈ (f.assign x v).atoms) :
    a ∈ f.atoms ∧ a.var ≠ x := by
  induction f with
  | const b => cases h
  | atom b =>
    by_cases hx : b.var = x
    · simp [assign, hx] at h
    · simp only [assign, hx, if_false, atoms_atom, List.mem_singleton] at h
      subst h
      exact ⟨List.mem_singleton_self a, hx⟩
  | not f ih =>
    rw [assign, atoms_neg] at h
    exact ih h
  | and parts ih =>
    rw [assign, assignAll_eq] at h
    obtain ⟨g, hg, ha⟩ := mem_atoms_conj h
    obtain ⟨f, hf, rfl⟩ := List.mem_map.1 hg
    exact ⟨by simpa using ⟨f, hf, (ih f hf ha).1⟩, (ih f hf ha).2⟩
  | or parts ih =>
    rw [assign, assignAll_eq] at h
    obtain ⟨g, hg, ha⟩ := mem_atoms_disj h
    obtain ⟨f, hf, rfl⟩ := List.mem_map.1 hg
    exact ⟨by simpa using ⟨f, hf, (ih f hf ha).1⟩, (ih f hf ha).2⟩

end Formula

end TransitionGuards
