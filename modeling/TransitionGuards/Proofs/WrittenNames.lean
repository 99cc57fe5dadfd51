import TransitionGuards.Proofs.BackendCalls
import TransitionGuards.Proofs.Comparisons

/-
  What the atoms of compiled formulas were written as.

  A table tells which comparison an atom was written as: the name is that of its
  variable. The atoms of a formula are the comparisons of the guard it comes from, in
  their order, less those that folding has dropped (`Spells`). That holds of guards
  compiled one after another and of the constraints of declared variables, and stays
  so under any later table. It brings the atoms into scope (`InScope`): the table has
  all their variables, and two of them have one variable exactly if they were written
  with one name.
-/

namespace TransitionGuards

namespace SymbolTable

/-- The comparison that the atom was written as, if the table has its variable. -/
def written? (table : SymbolTable) (a : Atom) : Option Comparison :=
  (table.name? a.var).map fun name => ⟨name, a.comparator, a.value⟩

/-- Whether the atoms were written as these comparisons, in this order, or as some
of them. -/
def Spells (table : SymbolTable) (atoms : List Atom) (cs : List Comparison) : Prop :=
  (atoms.map table.written?).Sublist (cs.map some)

variable {table table' : SymbolTable} {atoms atoms' : List Atom} {cs cs' : List Comparison} {a : Atom} {c : Comparison}

theorem written?_eq_some_iff : table.written? a = some c ↔
    table.name? a.var = some c.name ∧ a.comparator = c.comparator ∧ a.value = c.value := by
  rw [written?, Option.map_eq_some_iff]
  constructor
  · intro h
    obtain ⟨name, named, rfl⟩ := h
    exact ⟨named, rfl, rfl⟩
  · intro h
    obtain ⟨name, comparator, value⟩ := c
    obtain ⟨named, rfl, rfl⟩ := h
    exact ⟨name, named, rfl⟩

theorem Extends.written? (h : table'.Extends table) (hc : table.written? a = some c) : table'.written? a = some c := by
  rw [written?_eq_some_iff] at hc ⊢
  exact ⟨h.name? hc.1, hc.2⟩

namespace Spells

theorem nil (table : SymbolTable) (cs : List Comparison) : table.Spells [] cs := List.nil_sublist _

theorem exists_written (h : table.Spells atoms cs) (ha : a ∈ atoms) : ∃ c ∈ cs, table.written? a = some c := by
  obtain ⟨c, hc, same⟩ := List.mem_map.1 (h.subset (List.mem_map_of_mem ha))
  exact ⟨c, hc, same.symm⟩

theorem mono (h : table.Spells atoms cs) (more : cs.Sublist cs') : table.Spells atoms cs' :=
  List.Sublist.trans h (more.map some)

theorem append (h : table.Spells atoms cs) (h' : table.Spells atoms' cs') :
    table.Spells (atoms ++ atoms') (cs ++ cs') := by
  rw [Spells, List.map_append, List.map_append]
  exact List.Sublist.append h h'

theorem later (h : table.Spells atoms cs) (ext : table'.Extends table) : table'.Spells atoms cs := by
  have same : atoms.map table'.written? = atoms.map table.written? := by
    apply List.map_congr_left
    intro a ha
    obtain ⟨c, _, written⟩ := h.exists_written ha
    rw [written, ext.written? written]
  rwa [Spells, same]

section
variable {α β : Type} {atomsOf : β → List Atom} {written : α → List Comparison}

theorem flatMap {bs : List β} {as : List α} (each : List.Forall₂ (fun b a => table.Spells (atomsOf b) (written a)) bs as) :
    table.Spells (bs.flatMap atomsOf) (as.flatMap written) := by
  induction each with
  | nil => exact nil table []
  | cons first _ ih =>
    rw [List.flatMap_cons, List.flatMap_cons]
    exact first.append ih

variable {fs : List Formula} {as : List α}
variable (each : List.Forall₂ (fun f a => table.Spells f.atoms (written a)) fs as)
include each

/-- Folding drops atoms, and does not bring in others. -/
theorem conj : table.Spells (Formula.conj fs).atoms (as.flatMap written) := by
  rcases Formula.atoms_conj fs with false | kept
  · rw [false]
    exact nil ..
  · rw [kept]
    exact flatMap each

theorem disj : table.Spells (Formula.disj fs).atoms (as.flatMap written) := by
  rcases Formula.atoms_disj fs with true | kept
  · rw [true]
    exact nil ..
  · rw [kept]
    exact flatMap each

end

theorem compare {x : VarId} (named : table.name? x = some c.name) :
    table.Spells (Formula.compare x c.comparator c.value).atoms [c] := by
  have written : table.written? ⟨x, c.comparator, c.value⟩ = some c := written?_eq_some_iff.2 ⟨named, rfl, rfl⟩
  show List.Sublist [table.written? ⟨x, c.comparator, c.value⟩] [some c]
  rw [written]

end Spells

/-- Whether the atoms are in scope: written as comparisons among these, of variables
that the table has, and of one variable where they were written with one name. -/
structure InScope (table : SymbolTable) (atoms : List Atom) (cs : List Comparison) : Prop where
  spells : table.Spells atoms cs
  inside : ∀ a ∈ atoms, a.var.index < table.size
  shared : ∀ a ∈ atoms, ∀ b ∈ atoms, ∀ c d, table.written? a = some c → table.written? b = some d →
    (a.var = b.var ↔ c.name = d.name)

theorem Spells.inScope (h : table.Spells atoms cs) : table.InScope atoms cs where
  spells := h
  inside a ha := by
    obtain ⟨c, _, written⟩ := h.exists_written ha
    exact knows_iff.2 ⟨c.name, (written?_eq_some_iff.1 written).1⟩
  shared a _ b _ c d writtenA writtenB := by
    obtain ⟨nameA, _⟩ := written?_eq_some_iff.1 writtenA
    obtain ⟨nameB, _⟩ := written?_eq_some_iff.1 writtenB
    constructor
    · intro same
      rw [same, nameB] at nameA
      exact (Option.some.inj nameA).symm
    · intro same
      exact name?_inj nameA (same ▸ nameB)

end SymbolTable

/-! ## Guards -/

namespace Expression

variable {strict : Bool} {table table' : SymbolTable}

theorem parts_spell {parts : List Expression} {fs : List Formula}
    (ih : ∀ e ∈ parts, ∀ {table table' f}, e.compile strict table = (.ok f, table') → table'.Spells f.atoms e.comparisons)
    (h : Compile.each (compile strict) parts table = (.ok fs, table')) :
    List.Forall₂ (fun f e => table'.Spells f.atoms (comparisons e)) fs parts :=
  Compile.each_forall₂ (fun ext h => h.later ext) parts (fun e _ => extends_compile strict e) ih h

theorem compile_spells {e : Expression} {f : Formula} (h : e.compile strict table = (.ok f, table')) :
    table'.Spells f.atoms e.comparisons := by
  induction e generalizing table table' f with
  | empty => cases h; exact .nil ..
  | compare c => cases h; exact .compare (table.name?_intern c.name)
  | all parts ih =>
    rw [compile, compileList_eq] at h
    obtain ⟨fs, hr, rfl⟩ := Compile.ok_of_map h
    rw [comparisons, leaves, comparisons_parts]
    exact .conj (parts_spell ih hr)
  | any parts ih =>
    rw [compile, compileList_eq] at h
    obtain ⟨fs, hr, rfl⟩ := Compile.ok_of_map h
    rw [comparisons, leaves, comparisons_parts]
    exact .disj (parts_spell ih hr)
  | unparsed text reason =>
    cases strict <;> cases h
    exact .nil ..

end Expression

theorem FieldCondition.compileList_spells (cs : List FieldCondition) (table : SymbolTable) :
    List.Forall₂ (fun f (c : FieldCondition) => (compileList cs table).2.Spells f.atoms [c.comparison])
      (compileList cs table).1 cs := by
  apply (compileList_compares cs table).imp
  intro f c compares
  obtain ⟨x, named, rfl⟩ := compares
  exact .compare (c := c.comparison) named

namespace Guard
variable {mode : CompileMode} {g : Guard} {table table' : SymbolTable} {f : Formula}

theorem compile_spells (h : g.compile mode table = (.ok f, table')) :
    table'.Spells f.atoms (g.comparisons mode.precedence) := by
  unfold compile at h
  split at h
  · cases h
    exact .nil ..
  · cases g with
    | alwaysTrue => cases h; exact .nil ..
    | protocol conditions =>
      cases h
      have each := SymbolTable.Spells.conj (FieldCondition.compileList_spells conditions table)
      rwa [← List.map_eq_flatMap] at each
    | manual text => exact Expression.compile_spells h

theorem compileList_spells {gs : List Guard} {fs : List Formula} (h : compileList mode gs table = (.ok fs, table')) :
    List.Forall₂ (fun f (g : Guard) => table'.Spells f.atoms (g.comparisons mode.precedence)) fs gs := by
  rw [compileList_eq] at h
  exact Compile.each_forall₂ (fun ext h => h.later ext) gs (fun g _ => extends_compile mode g) (fun g _ => compile_spells) h

end Guard

/-! ## Declared variables -/

namespace Variable
variable {v : Variable} {x : VarId} {f : Formula} {table : SymbolTable}

/-- The comparisons that the constraint of the variable is made of. -/
def written (v : Variable) : List Comparison :=
  match v.bounds with
  | .error _ => []
  | .ok (min, max) => (comparisons min max).map fun p => ⟨v.name, p.1, p.2⟩

theorem constraint_spells (named : table.name? x = some v.name) (h : v.constraint x = .ok f) :
    table.Spells f.atoms v.written := by
  obtain ⟨min, max, bounds, rfl⟩ := exists_of_constraint h
  have each : List.Forall₂ (fun f (p : Comparator × Int64) => table.Spells f.atoms [⟨v.name, p.1, p.2⟩])
      ((comparisons min max).map fun p => Formula.compare x p.1 p.2) (comparisons min max) := by
    rw [List.forall₂_map_left_iff, List.forall₂_same]
    exact fun p _ => .compare (c := ⟨v.name, p.1, p.2⟩) named
  rw [written, bounds]
  simpa only [List.map_eq_flatMap] using SymbolTable.Spells.conj each

end Variable

theorem Analyzer.DomainsIn.spells {table : SymbolTable} {declared : List Variable} {fs : List Formula}
    (h : DomainsIn table declared fs) :
    List.Forall₂ (fun f (v : Variable) => table.Spells f.atoms v.written) fs declared := by
  apply List.Forall₂.imp _ h
  intro f v made
  obtain ⟨x, named, constraint⟩ := made
  exact v.constraint_spells named constraint

end TransitionGuards
