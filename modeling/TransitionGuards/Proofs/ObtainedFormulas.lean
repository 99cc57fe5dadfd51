import TransitionGuards.Proofs.LegacyPieces
import TransitionGuards.Proofs.Printing
import TransitionGuards.Variable

/-
  The formulas that come up are in normal form.

  `Obtained` closes comparisons, constants, constraints of declared variables and
  compiled guards under folding, negation and assignment; all of it is in normal
  form, since each operation keeps the form and assignment makes it
  (`Obtained.normal`).

  A compiled guard says more (`Affirmative`): it has no negation, and it is not
  `false`. Conjunction keeps that, disjunction only of at least one part. So it
  matters that a reader of guard text never makes a disjunction without parts
  (`filled_parse`), whichever way the text groups and whatever in it could not be
  read.
-/

namespace TransitionGuards

namespace Formula

variable {f : Formula} {fs gs : List Formula}

/-! ## Affirmative formulas -/

/-- Without a negation anywhere. -/
inductive Positive : Formula → Prop
  | const (b : Bool) : Positive (.const b)
  | atom (a : Atom) : Positive (.atom a)
  | and {parts : List Formula} (positive : ∀ f ∈ parts, Positive f) : Positive (.and parts)
  | or {parts : List Formula} (positive : ∀ f ∈ parts, Positive f) : Positive (.or parts)

theorem Folded.positive {unit : Bool} {kind : List Formula → Formula} (h : Folded unit kind fs f)
    (parts : ∀ inner, (kind inner).Positive → ∀ g ∈ inner, g.Positive)
    (join : ∀ {gs : List Formula}, (∀ g ∈ gs, g.Positive) → (kind gs).Positive)
    (positive : ∀ f ∈ fs, f.Positive) : f.Positive := by
  have left {gs : List Formula} (spliced : Spliced unit kind fs gs) : ∀ g ∈ gs, g.Positive :=
    spliced.forall_mem (fun f hf _ _ => hf) parts positive
  cases h with
  | settled _ => exact .const _
  | nothing _ => exact .const _
  | single spliced => exact left spliced f (List.mem_singleton_self f)
  | several _ spliced => exact join (left spliced)

theorem Positive.conj (positive : ∀ f ∈ fs, f.Positive) : (conj fs).Positive := by
  refine (folded_conj fs).positive (fun inner hi => ?_) .and positive
  cases hi with
  | and parts => exact parts

theorem Positive.disj (positive : ∀ f ∈ fs, f.Positive) : (disj fs).Positive := by
  refine (folded_disj fs).positive (fun inner hi => ?_) .or positive
  cases hi with
  | or parts => exact parts

/-- A conjunction comes to `false` only if one of its parts is `false`: that parts
contradict each other is not noticed. -/
theorem const_false_mem_of_conj (normal : ∀ f ∈ fs, f.Normal) (h : conj fs = .const false) :
    .const false ∈ fs := by
  have folded := folded_conj fs
  rw [h] at folded
  cases folded with
  | settled mem => exact mem
  | single spliced =>
    -- what is left is solid, so it is no constant
    cases (spliced.solid (fun _ => Normal.parts_and) normal _ (List.mem_singleton_self _)).1

theorem eq_const_false_of_disj (normal : ∀ f ∈ fs, f.Normal) (h : disj fs = .const false) :
    ∀ f ∈ fs, f = .const false := by
  intro f hf
  have none : fs.flatMap atoms = [] := by
    rcases atoms_disj fs with e | e
    · cases h.symm.trans e
    · rw [← e, h, atoms_const]
  obtain ⟨b, rfl⟩ := (normal f hf).eq_const fun a ha => by
    have := List.mem_flatMap.2 ⟨f, hf, ha⟩
    rw [none] at this
    cases this
  have fails : (disj fs).holds (fun _ => 0) = false := by rw [h, holds_const]
  rw [holds_disj, List.any_eq_false] at fails
  exact congrArg Formula.const (eq_false_of_ne_true (fails _ hf))

/-- In normal form, without negation, and not `false`. -/
structure Affirmative (f : Formula) : Prop where
  normal : f.Normal
  positive : f.Positive
  possible : f ≠ .const false

namespace Affirmative

theorem true : (const true).Affirmative := ⟨.inl ⟨_, rfl⟩, .const _, by simp⟩

theorem compare (x : VarId) (c : Comparator) (v : Int64) : (compare x c v).Affirmative :=
  ⟨.inr (.atom _), .atom _, nofun⟩

theorem conj (h : ∀ f ∈ fs, f.Affirmative) : (conj fs).Affirmative where
  normal := .conj fun f hf => (h f hf).normal
  positive := .conj fun f hf => (h f hf).positive
  possible := by
    intro failed
    exact (h _ (const_false_mem_of_conj (fun f hf => (h f hf).normal) failed)).possible rfl

theorem disj (nonempty : fs ≠ []) (h : ∀ f ∈ fs, f.Affirmative) : (disj fs).Affirmative where
  normal := .disj fun f hf => (h f hf).normal
  positive := .disj fun f hf => (h f hf).positive
  possible := by
    intro failed
    obtain ⟨f, hf⟩ := List.exists_mem_of_ne_nil fs nonempty
    exact (h f hf).possible (eq_const_false_of_disj (fun f hf => (h f hf).normal) failed f hf)

end Affirmative

end Formula

/-! ## Expressions without an empty disjunction -/

namespace Expression
open Grammar

/-- Whether every disjunction in the expression has a part. -/
inductive Filled : Expression → Prop
  | empty : Filled .empty
  | compare (c : Comparison) : Filled (.compare c)
  | all {parts : List Expression} (filled : ∀ e ∈ parts, Filled e) : Filled (.all parts)
  | any {parts : List Expression} (nonempty : parts ≠ []) (filled : ∀ e ∈ parts, Filled e) : Filled (.any parts)
  | unparsed (text reason : String) : Filled (.unparsed text reason)

theorem Filled.allOf {es : List Expression} (filled : ∀ e ∈ es, e.Filled) : (allOf es).Filled := by
  unfold Expression.allOf
  split
  · exact filled _ (List.mem_singleton_self _)
  · exact .all filled

theorem Filled.anyOf {es : List Expression} (nonempty : es ≠ []) (filled : ∀ e ∈ es, e.Filled) :
    (anyOf es).Filled := by
  unfold Expression.anyOf
  split
  · exact filled _ (List.mem_singleton_self _)
  · exact .any nonempty filled

theorem Proper.filled {e : Expression} (h : e.Proper) : e.Filled := by
  induction h with
  | compare _ => exact .compare _
  | all _ _ ih => exact .all ih
  | any two _ ih =>
    refine .any ?_ ih
    rintro rfl
    cases two

theorem Leaf.filled {p : List Char} {e : Expression} (leaf : Leaf p e) : e.Filled := by
  cases leaf with
  | blank _ => exact .unparsed ..
  | comparison _ => exact .compare _
  | other reason _ _ => exact .unparsed ..

theorem filled_legacyAny (piece : List Char) : (legacyAny piece).Filled := by
  apply Filled.anyOf
  · exact fun none => (cut_splitAtPairs _ _).ne_nil (List.map_eq_nil_iff.1 none)
  · exact List.forall_mem_map.2 fun q _ => (leaf_legacyLeaf q).filled

theorem filled_parse (precedence : Precedence) (text : String) : (parse precedence text).Filled := by
  cases blank : allBlank text.toList with
  | true =>
    have parsed : parse precedence text = .empty := by simp [parse, blank]
    rw [parsed]
    exact .empty
  | false =>
    cases precedence with
    | legacy =>
      rw [parse_legacy_eq blank]
      exact .allOf (List.forall_mem_map.2 fun p _ => filled_legacyAny p)
    | standard =>
      rcases parse_standard_cases blank with sentence | ⟨reason, leaf⟩
      · exact sentence.proper.filled
      · rw [leaf]
        exact .unparsed ..

end Expression

/-! ## Compiled guards -/

theorem Compile.forall_mem_each {α : Type} {c : α → Compile Formula} {p : Formula → Prop} :
    ∀ {as : List α} {table table' : SymbolTable} {fs : List Formula},
      (∀ a ∈ as, ∀ {table table' f}, c a table = (.ok f, table') → p f) →
      each c as table = (.ok fs, table') → fs.length = as.length ∧ ∀ f ∈ fs, p f
  | [], _, _, _, _, h => by
    cases h
    exact ⟨rfl, nofun⟩
  | a :: rest, _, _, _, all, h => by
    obtain ⟨f, table₁, gs, hf, hr, rfl⟩ := each_cons_ok h
    obtain ⟨length, others⟩ := forall_mem_each (fun b hb => all b (List.mem_cons_of_mem _ hb)) hr
    exact ⟨congrArg (· + 1) length, List.forall_mem_cons.2 ⟨all a (List.mem_cons_self ..) hf, others⟩⟩

open Formula

theorem Expression.Filled.affirmative {strict : Bool} {e : Expression} (filled : e.Filled)
    {table table' : SymbolTable} {f : Formula} (h : e.compile strict table = (.ok f, table')) : f.Affirmative := by
  induction filled generalizing table table' f with
  | empty => cases h; exact .true
  | compare c => cases h; exact .compare ..
  | unparsed text reason =>
    cases strict <;> cases h
    exact .true
  | all _ ih =>
    rw [compile, compileList_eq] at h
    obtain ⟨fs, compiled, rfl⟩ := Compile.ok_of_map h
    exact .conj (Compile.forall_mem_each ih compiled).2
  | any nonempty _ ih =>
    rw [compile, compileList_eq] at h
    obtain ⟨fs, compiled, rfl⟩ := Compile.ok_of_map h
    obtain ⟨length, affirmative⟩ := Compile.forall_mem_each ih compiled
    -- an empty disjunction would be `false`, and this one has a part
    refine .disj ?_ affirmative
    rintro rfl
    exact nonempty (List.length_eq_zero_iff.1 length.symm)

theorem FieldCondition.affirmative_compileList : ∀ (cs : List FieldCondition) (table : SymbolTable),
    ∀ f ∈ (compileList cs table).1, f.Affirmative
  | [], _ => nofun
  | _ :: rest, _ => List.forall_mem_cons.2 ⟨.compare .., affirmative_compileList rest _⟩

theorem Guard.affirmative_compile {mode : CompileMode} {g : Guard} {table table' : SymbolTable} {f : Formula}
    (h : g.compile mode table = (.ok f, table')) : f.Affirmative := by
  unfold compile at h
  split at h
  · cases h
    exact .true
  · cases g with
    | alwaysTrue => cases h; exact .true
    | protocol conditions =>
      cases h
      exact .conj (FieldCondition.affirmative_compileList conditions table)
    | manual text => exact (Expression.filled_parse mode.precedence text).affirmative h

/-! ## Everything that is made -/

namespace Formula

/-- What can be made with the operations on formulas, one after another, from
comparisons, constants, constraints of variables and compiled guards. -/
inductive Obtained : Formula → Prop
  | const (b : Bool) : Obtained (.const b)
  | compare (x : VarId) (c : Comparator) (v : Int64) : Obtained (.compare x c v)
  | constraint {declared : Variable} {x : VarId} {f : Formula} (made : declared.constraint x = .ok f) : Obtained f
  | compiled {mode : CompileMode} {g : Guard} {table table' : SymbolTable} {f : Formula}
      (made : g.compile mode table = (.ok f, table')) : Obtained f
  | conj {parts : List Formula} (obtained : ∀ f ∈ parts, Obtained f) : Obtained (.conj parts)
  | disj {parts : List Formula} (obtained : ∀ f ∈ parts, Obtained f) : Obtained (.disj parts)
  | neg {f : Formula} (obtained : Obtained f) : Obtained f.neg
  | assign (x : VarId) (v : Int64) {f : Formula} (obtained : Obtained f) : Obtained (f.assign x v)

theorem Normal.constraint {declared : Variable} {x : VarId} {f : Formula} (made : declared.constraint x = .ok f) :
    f.Normal := by
  rw [Variable.constraint] at made
  split at made
  · cases made
  · next min max _ =>
    cases made
    have bound (c : Comparator) (limit : Option Int64) :
        ∀ f ∈ (limit.map (Formula.compare x c)).toList, f.Normal := by
      intro f hf
      obtain ⟨v, _, rfl⟩ := Option.map_eq_some_iff.1 (Option.mem_toList.1 hf)
      exact .inr (.atom _)
    exact .conj (List.forall_mem_append.2 ⟨bound .ge min, bound .le max⟩)

theorem Obtained.normal {f : Formula} (h : f.Obtained) : f.Normal := by
  induction h with
  | const b => exact .inl ⟨b, rfl⟩
  | compare x c v => exact .inr (.atom _)
  | constraint made => exact .constraint made
  | compiled made => exact (Guard.affirmative_compile made).normal
  | conj _ ih => exact .conj ih
  | disj _ ih => exact .disj ih
  | neg _ ih => exact ih.neg
  | assign x v _ _ => exact .assign x v _

theorem Normal.eq_true_or_false {f : Formula} (h : f.Normal) (none : f.atoms = []) :
    f = .const true ∨ f = .const false := by
  obtain ⟨b, rfl⟩ := h.eq_const fun a ha => by
    rw [none] at ha
    cases ha
  cases b
  · exact .inr rfl
  · exact .inl rfl

/-- Whatever is made with the operations on formulas is in normal form, and one of
the two constants if it has no atom. Assignment needs no such origin: it brings
any formula into normal form. A compiled guard is in normal form besides, never
`false`, and without a negation. -/
theorem normal_of_every_origin :
    (∀ f : Formula, f.Obtained → f.Normal ∧ (f.atoms = [] → f = .const true ∨ f = .const false)) ∧
    (∀ (x : VarId) (v : Int64) (f : Formula), (f.assign x v).Normal) ∧
    ∀ (mode : CompileMode) (g : Guard) (table table' : SymbolTable) (f : Formula),
      g.compile mode table = (.ok f, table') → f.Normal ∧ f ≠ .const false ∧ f.Positive := by
  refine ⟨fun f obtained => ?_, Normal.assign, fun mode g table table' f made => ?_⟩
  · exact ⟨obtained.normal, obtained.normal.eq_true_or_false⟩
  · have affirmative := Guard.affirmative_compile made
    exact ⟨affirmative.normal, affirmative.possible, affirmative.positive⟩

/-- A conjunction under two negations is spliced into the one around it; a value
put in folds what was never folded; and a guard with two conditions. -/
theorem normal_of_every_origin_spliced :
    let a := compare ⟨0⟩ .gt 1
    let b := compare ⟨1⟩ .eq 0
    let raw := or [.const false, .not (.not (.or [b])), a]
    (conj [(conj [a, b]).neg.neg, raw.assign ⟨0⟩ 0]).Normal ∧
      conj [(conj [a, b]).neg.neg, raw.assign ⟨0⟩ 0] = .and [a, b, b] ∧
    (raw.assign ⟨1⟩ 7).Normal ∧ raw.assign ⟨1⟩ 7 = a ∧
    (.and [a, b] : Formula).Positive := by
  intro a b raw
  obtain ⟨obtained, assigned, compiled⟩ := normal_of_every_origin
  have guard : (Guard.protocol [.of "x" .gt (.integer 1), ⟨"y", .eq, none, none⟩]).compile .default .empty =
      (.ok (.and [a, b]), ⟨["field_x", "field_y"], by decide⟩) := rfl
  have inner : (conj [a, b]).Obtained := .compiled guard
  have settled : (raw.assign ⟨0⟩ 0).Obtained := .compare ⟨1⟩ .eq 0
  have whole := Obtained.conj (List.forall_mem_cons.2 ⟨inner.neg.neg, List.forall_mem_singleton.2 settled⟩)
  exact ⟨(obtained _ whole).1, rfl, assigned ⟨1⟩ 7 raw, rfl, (compiled _ _ _ _ _ guard).2.2⟩

end Formula

end TransitionGuards
