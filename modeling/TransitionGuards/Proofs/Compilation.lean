import TransitionGuards.Guard.Compile
import TransitionGuards.Guard.Meaning
import TransitionGuards.Proofs.NormalForm
import TransitionGuards.Proofs.Registration
import Mathlib.Data.List.Forall2

/-
  Compilation keeps the meaning of guards.

  `f.Means table m` says that under the names of the table the formula holds
  exactly where `m` does. A later table changes nothing about that, so guards
  compiled one after another into one table keep their meanings
  (`Guard.compileList_means`). An expression, a list of conditions and a guard
  mean what `holds` reads off them; text that could not be read means `true`
  unless compilation is strict and ends there. With values looked up by name, a
  formula evaluates to what the guard says (`Guard.compile_exact`).
-/

namespace TransitionGuards

/-- Whether the variables have the values of their names. -/
def SymbolTable.Reads (table : SymbolTable) (σ : Valuation) (s : Values) : Prop :=
  ∀ x name, table.name? x = some name → s x = σ name

/-- The values of the names, and zero for variables that the table does not
have. -/
def SymbolTable.values (table : SymbolTable) (σ : Valuation) : Values := fun x => ((table.name? x).map σ).getD 0

theorem SymbolTable.reads_values (table : SymbolTable) (σ : Valuation) : table.Reads σ (table.values σ) := by
  intro x name hx
  rw [values, hx]
  rfl

theorem SymbolTable.Extends.reads {table table' : SymbolTable} {σ : Valuation} {s : Values}
    (h : table'.Extends table) (reads : table'.Reads σ s) : table.Reads σ s :=
  fun x name hx => reads x name (h.name? hx)

/-- Whether the formula over the variables of the table holds exactly where the
meaning does. -/
structure Formula.Means (table : SymbolTable) (f : Formula) (meaning : Valuation → Bool) : Prop where
  built : f.Built table.Knows
  holds : ∀ σ s, table.Reads σ s → f.holds s = meaning σ

namespace Formula.Means
variable {table table' : SymbolTable} {f : Formula} {meaning : Valuation → Bool}

theorem later (h : f.Means table meaning) (ext : table'.Extends table) : f.Means table' meaning where
  built := h.built.mono fun _ hx => ext.knows hx
  holds σ s reads := h.holds σ s (ext.reads reads)

theorem const (table : SymbolTable) (b : Bool) : (Formula.const b).Means table fun _ => b :=
  ⟨.const b, fun _ _ _ => rfl⟩

theorem compare {x : VarId} {name : String} (hx : table.name? x = some name) (c : Comparator) (v : Int64) :
    (Formula.compare x c v).Means table fun σ => c.holds (σ name) v where
  built := .compare c v (SymbolTable.knows_iff.2 ⟨name, hx⟩)
  holds σ s reads := by
    show c.holds (s x) v = _
    rw [reads x name hx]

variable {α : Type} {m : α → Valuation → Bool} {fs : List Formula} {as : List α}

theorem all_built (h : List.Forall₂ (fun f a => f.Means table (m a)) fs as) : ∀ f ∈ fs, f.Built table.Knows := by
  induction h with
  | nil => exact nofun
  | cons h _ ih => exact List.forall_mem_cons.2 ⟨h.built, ih⟩

theorem conj (h : List.Forall₂ (fun f a => f.Means table (m a)) fs as) :
    (Formula.conj fs).Means table fun σ => as.all (m · σ) where
  built := .conj (all_built h)
  holds σ s reads := by
    rw [holds_conj]
    induction h with
    | nil => rfl
    | cons h _ ih => rw [List.all_cons, List.all_cons, ih, h.holds σ s reads]

theorem disj (h : List.Forall₂ (fun f a => f.Means table (m a)) fs as) :
    (Formula.disj fs).Means table fun σ => as.any (m · σ) where
  built := .disj (all_built h)
  holds σ s reads := by
    rw [holds_disj]
    induction h with
    | nil => rfl
    | cons h _ ih => rw [List.any_cons, List.any_cons, ih, h.holds σ s reads]

theorem neg (h : f.Means table meaning) : f.neg.Means table fun σ => !meaning σ where
  built := .neg h.built
  holds σ s reads := by rw [holds_neg, h.holds σ s reads]

end Formula.Means

/-! ## One after another -/

/-- The outcome with one more formula in front. -/
def Compile.prepend (f : Formula) (outcome : Except ParseError (List Formula) × SymbolTable) :
    Except ParseError (List Formula) × SymbolTable :=
  (outcome.1.map (f :: ·), outcome.2)

/-- Compiles from left to right, up to the first error. -/
def Compile.each {α : Type} (c : α → Compile Formula) : List α → Compile (List Formula)
  | [], table => (.ok [], table)
  | a :: rest, table =>
    match c a table with
    | (.error err, table) => (.error err, table)
    | (.ok f, table) => prepend f (each c rest table)

namespace Compile
variable {α : Type} {c : α → Compile Formula} {m : α → Valuation → Bool}

theorem ok_of_map {β : Type} {g : List Formula → β} {b : β} {table : SymbolTable}
    {outcome : Except ParseError (List Formula) × SymbolTable} (h : (outcome.1.map g, outcome.2) = (.ok b, table)) :
    ∃ fs, outcome = (.ok fs, table) ∧ b = g fs := by
  obtain ⟨result, table'⟩ := outcome
  cases result with
  | error e => cases h
  | ok fs =>
    cases h
    exact ⟨fs, rfl, rfl⟩

theorem each_cons_ok {a : α} {rest : List α} {table table' : SymbolTable} {fs : List Formula}
    (h : each c (a :: rest) table = (.ok fs, table')) :
    ∃ f table₁ gs, c a table = (.ok f, table₁) ∧ each c rest table₁ = (.ok gs, table') ∧ fs = f :: gs := by
  rw [each] at h
  split at h
  · cases h
  · next f table₁ hf =>
    obtain ⟨gs, hr, hfs⟩ := ok_of_map h
    exact ⟨f, table₁, gs, hf, hr, hfs⟩

theorem extends_each : ∀ (as : List α) (table : SymbolTable),
    (∀ a ∈ as, ∀ table, (c a table).2.Extends table) → (each c as table).2.Extends table
  | [], table, _ => .refl table
  | a :: rest, table, grows => by
    have first := grows a (List.mem_cons_self ..) table
    rw [each]
    split
    · next h => rwa [h] at first
    · next h =>
      rw [h] at first
      exact (extends_each rest _ fun b hb => grows b (List.mem_cons_of_mem _ hb)).trans first

/-- What each compilation makes sure of under the table after it, and later tables
keep, holds of all the formulas under the final table. -/
theorem each_forall₂ {P : SymbolTable → Formula → α → Prop}
    (later : ∀ {table table' f a}, table'.Extends table → P table f a → P table' f a) :
    ∀ (as : List α) {table table' : SymbolTable} {fs : List Formula},
    (∀ a ∈ as, ∀ table, (c a table).2.Extends table) →
    (∀ a ∈ as, ∀ {table table' f}, c a table = (.ok f, table') → P table' f a) →
    each c as table = (.ok fs, table') → List.Forall₂ (P table') fs as
  | [], _, _, _, _, _, h => by
    cases h
    exact .nil
  | a :: rest, table, table', fs, grows, ensures, h => by
    obtain ⟨f, table₁, gs, hf, hr, rfl⟩ := each_cons_ok h
    have grows' : ∀ b ∈ rest, ∀ table, (c b table).2.Extends table :=
      fun b hb => grows b (List.mem_cons_of_mem _ hb)
    -- the rest only adds names after those of the first formula
    have ext : table'.Extends table₁ := by
      have := extends_each rest table₁ grows'
      rwa [hr] at this
    have first := later ext (ensures a (List.mem_cons_self ..) hf)
    exact .cons first (each_forall₂ (P := P) later rest grows' (fun b hb => ensures b (List.mem_cons_of_mem _ hb)) hr)

theorem each_means (as : List α) {table table' : SymbolTable} {fs : List Formula}
    (grows : ∀ a ∈ as, ∀ table, (c a table).2.Extends table)
    (means : ∀ a ∈ as, ∀ {table table' f}, c a table = (.ok f, table') → f.Means table' (m a)) :
    each c as table = (.ok fs, table') → List.Forall₂ (fun f a => f.Means table' (m a)) fs as :=
  each_forall₂ (fun ext h => h.later ext) as grows means

theorem each_ok : ∀ (as : List α) (table : SymbolTable), (∀ a ∈ as, ∀ table, ∃ f, (c a table).1 = .ok f) →
    ∃ fs, (each c as table).1 = .ok fs
  | [], _, _ => ⟨[], rfl⟩
  | a :: rest, table, ok => by
    obtain ⟨f, hf⟩ := ok a (List.mem_cons_self ..) table
    obtain ⟨gs, hg⟩ := each_ok rest (c a table).2 fun b hb => ok b (List.mem_cons_of_mem _ hb)
    rw [each]
    split
    · next h => rw [h] at hf; cases hf
    · next h =>
      rw [h] at hg
      exact ⟨_, congrArg (Except.map _) hg⟩

end Compile

/-! ## Expressions -/

namespace Expression

@[induction_eliminator]
theorem induction {motive : Expression → Prop} (empty : motive .empty) (compare : ∀ c, motive (.compare c))
    (all : ∀ parts, (∀ e ∈ parts, motive e) → motive (.all parts))
    (any : ∀ parts, (∀ e ∈ parts, motive e) → motive (.any parts))
    (unparsed : ∀ text reason, motive (.unparsed text reason)) : ∀ e, motive e
  | .empty => empty
  | .compare c => compare c
  | .all parts => all parts fun e _ => induction empty compare all any unparsed e
  | .any parts => any parts fun e _ => induction empty compare all any unparsed e
  | .unparsed text reason => unparsed text reason

theorem holdsAll_eq (σ : Valuation) : ∀ es : List Expression, holdsAll σ es = es.all (holds σ)
  | [] => rfl
  | e :: rest => by rw [holdsAll, holdsAll_eq σ rest, List.all_cons]

theorem holdsAny_eq (σ : Valuation) : ∀ es : List Expression, holdsAny σ es = es.any (holds σ)
  | [] => rfl
  | e :: rest => by rw [holdsAny, holdsAny_eq σ rest, List.any_cons]

theorem compileList_eq (strict : Bool) : ∀ (es : List Expression) (table : SymbolTable),
    compileList strict es table = Compile.each (compile strict) es table
  | [], _ => rfl
  | e :: rest, table => by
    rw [compileList, Compile.each]
    cases compile strict e table with
    | mk result table =>
      cases result with
      | error err => rfl
      | ok f => exact congrArg (Compile.prepend f) (compileList_eq strict rest table)

theorem extends_compile (strict : Bool) (e : Expression) (table : SymbolTable) :
    (e.compile strict table).2.Extends table := by
  induction e generalizing table with
  | empty => exact .refl table
  | compare c => exact table.extends_intern c.name
  | all parts ih | any parts ih =>
    rw [compile, compileList_eq]
    exact Compile.extends_each parts table ih
  | unparsed text reason => exact .refl table

/-- An expression that compiles means what it says. -/
theorem compile_means {strict : Bool} {e : Expression} {table table' : SymbolTable} {f : Formula}
    (h : e.compile strict table = (.ok f, table')) : f.Means table' fun σ => e.holds σ := by
  induction e generalizing table table' f with
  | empty => cases h; exact .const table true
  | compare c => cases h; exact .compare (table.name?_intern c.name) c.comparator c.value
  | all parts ih =>
    rw [compile, compileList_eq] at h
    obtain ⟨fs, hr, rfl⟩ := Compile.ok_of_map h
    have := Formula.Means.conj (Compile.each_means parts (fun e _ => extends_compile strict e) ih hr)
    simpa only [holds, holdsAll_eq] using this
  | any parts ih =>
    rw [compile, compileList_eq] at h
    obtain ⟨fs, hr, rfl⟩ := Compile.ok_of_map h
    have := Formula.Means.disj (Compile.each_means parts (fun e _ => extends_compile strict e) ih hr)
    simpa only [holds, holdsAny_eq] using this
  | unparsed text reason =>
    cases strict <;> cases h
    exact .const table true

/-- Without strictness everything compiles. -/
theorem compile_ok (e : Expression) (table : SymbolTable) : ∃ f, (e.compile false table).1 = .ok f := by
  induction e generalizing table with
  | empty => exact ⟨_, rfl⟩
  | compare c => exact ⟨_, rfl⟩
  | all parts ih | any parts ih =>
    obtain ⟨fs, hfs⟩ := Compile.each_ok parts table ih
    rw [compile, compileList_eq]
    exact ⟨_, congrArg (Except.map _) hfs⟩
  | unparsed text reason => exact ⟨_, rfl⟩

end Expression

/-! ## Guards -/

theorem FieldCondition.extends_compileList : ∀ (cs : List FieldCondition) (table : SymbolTable),
    (compileList cs table).2.Extends table
  | [], table => .refl table
  | c :: rest, table =>
    (extends_compileList rest (table.intern c.variableName).2).trans (table.extends_intern c.variableName)

theorem FieldCondition.compileList_compares : ∀ (cs : List FieldCondition) (table : SymbolTable),
    List.Forall₂ (fun f c => ∃ x, (compileList cs table).2.name? x = some c.variableName ∧
      f = .compare x c.comparator c.code) (compileList cs table).1 cs
  | [], _ => .nil
  | c :: rest, table => by
    refine .cons ⟨(table.intern c.variableName).1, ?_, rfl⟩ (compileList_compares rest _)
    exact (extends_compileList rest _).name? (table.name?_intern c.variableName)

theorem FieldCondition.compileList_means (cs : List FieldCondition) (table : SymbolTable) :
    List.Forall₂ (fun f (c : FieldCondition) => f.Means (compileList cs table).2 fun σ => c.holds σ)
      (compileList cs table).1 cs := by
  apply (compileList_compares cs table).imp
  intro f c compares
  obtain ⟨x, named, rfl⟩ := compares
  exact .compare named c.comparator c.code

namespace Guard
variable {mode : CompileMode} {g : Guard} {table table' : SymbolTable} {f : Formula}

theorem holds_of_isVacuous (precedence : Precedence) (σ : Valuation) (h : g.isVacuous = true) :
    g.holds precedence σ = true := by
  cases g with
  | alwaysTrue => rfl
  | protocol conditions =>
    rw [isVacuous, List.isEmpty_iff] at h
    rw [h]
    rfl
  | manual text =>
    rw [isVacuous] at h
    simp only [Guard.holds, Expression.parse, h, if_true]
    rfl

theorem extends_compile (mode : CompileMode) (g : Guard) (table : SymbolTable) :
    (g.compile mode table).2.Extends table := by
  unfold compile
  split
  · exact .refl table
  · cases g with
    | alwaysTrue => exact .refl table
    | protocol conditions => exact FieldCondition.extends_compileList conditions table
    | manual text => exact Expression.extends_compile _ _ table

/-- A guard that compiles means what it says. -/
theorem compile_means (h : g.compile mode table = (.ok f, table')) :
    f.Means table' fun σ => g.holds mode.precedence σ := by
  unfold compile at h
  split at h
  · next vacuous =>
    cases h
    simp only [holds_of_isVacuous _ _ vacuous]
    exact .const table true
  · cases g with
    | alwaysTrue => cases h; exact .const table true
    | protocol conditions =>
      cases h
      exact Formula.Means.conj (FieldCondition.compileList_means conditions table)
    | manual text => exact Expression.compile_means h

theorem compile_ok (lenient : mode.strict = false) (g : Guard) (table : SymbolTable) :
    ∃ f, (g.compile mode table).1 = .ok f := by
  unfold compile
  split
  · exact ⟨_, rfl⟩
  · cases g with
    | alwaysTrue => exact ⟨_, rfl⟩
    | protocol conditions => exact ⟨_, rfl⟩
    | manual text =>
      simp only [lenient]
      exact Expression.compile_ok _ table

theorem compileList_eq (mode : CompileMode) : ∀ (gs : List Guard) (table : SymbolTable),
    compileList mode gs table = Compile.each (compile mode) gs table
  | [], _ => rfl
  | g :: rest, table => by
    rw [compileList, Compile.each]
    cases compile mode g table with
    | mk result table =>
      cases result with
      | error err => rfl
      | ok f => exact congrArg (Compile.prepend f) (compileList_eq mode rest table)

/-- Guards compiled one after another each mean what they say under the final
table. -/
theorem compileList_means {gs : List Guard} {fs : List Formula}
    (h : compileList mode gs table = (.ok fs, table')) :
    List.Forall₂ (fun f (g : Guard) => f.Means table' fun σ => g.holds mode.precedence σ) fs gs := by
  rw [compileList_eq] at h
  exact Compile.each_means gs (fun g _ => extends_compile mode g) (fun g _ => compile_means) h

theorem compileList_ok (lenient : mode.strict = false) (gs : List Guard) (table : SymbolTable) :
    ∃ fs, (compileList mode gs table).1 = .ok fs := by
  rw [compileList_eq]
  exact Compile.each_ok gs table fun g _ => compile_ok lenient g

theorem compileList_ne_error {gs : List Guard} {e : ParseError} (lenient : mode.strict = false) :
    compileList mode gs table ≠ (.error e, table') := by
  intro failed
  obtain ⟨fs, compiled⟩ := compileList_ok lenient gs table
  rw [failed] at compiled
  cases compiled

end Guard

/-! ## Values by name -/

/-- The values of the variables of the table, by their names. -/
def SymbolTable.lookup (table : SymbolTable) (σ : Valuation) (x : VarId) : Option Int64 := (table.name? x).map σ

theorem Formula.Means.eval {table : SymbolTable} {f : Formula} {meaning : Valuation → Bool} (h : f.Means table meaning)
    (σ : Valuation) : f.eval (table.lookup σ) = some (meaning σ) := by
  rw [← h.holds σ _ (table.reads_values σ)]
  apply eval_eq_holds
  intro a ha
  obtain ⟨name, hn⟩ := SymbolTable.knows_iff.1 (h.built.known_var a ha)
  rw [SymbolTable.lookup, SymbolTable.values, hn]
  rfl

theorem Guard.compile_evaluates (precedence : Precedence) (g : Guard) (σ : Valuation) (table : SymbolTable) :
    ∃ f table', g.compile ⟨precedence, false⟩ table = (.ok f, table') ∧
      f.eval (table'.lookup σ) = some (g.holds precedence σ) := by
  obtain ⟨f, ok⟩ : ∃ f, (g.compile ⟨precedence, false⟩ table).1 = .ok f := compile_ok rfl g table
  have compiled : g.compile ⟨precedence, false⟩ table = (.ok f, (g.compile ⟨precedence, false⟩ table).2) :=
    Prod.ext ok rfl
  exact ⟨f, _, compiled, (compile_means compiled).eval σ⟩

/-- Under the names of the table after it, a guard compiled without strictness
evaluates to what it says, whatever the table before. So the formulas from two
tables evaluate alike. -/
theorem Guard.compile_exact (precedence : Precedence) (g : Guard) (σ : Valuation) :
    (∀ table, ∃ f table', g.compile ⟨precedence, false⟩ table = (.ok f, table') ∧
      f.eval (table'.lookup σ) = some (g.holds precedence σ)) ∧
    ∀ table₁ table₂ f₁ f₂ table₁' table₂', g.compile ⟨precedence, false⟩ table₁ = (.ok f₁, table₁') →
      g.compile ⟨precedence, false⟩ table₂ = (.ok f₂, table₂') →
      f₁.eval (table₁'.lookup σ) = f₂.eval (table₂'.lookup σ) := by
  refine ⟨compile_evaluates precedence g σ, ?_⟩
  intro table₁ table₂ f₁ f₂ table₁' table₂' compiled₁ compiled₂
  rw [(compile_means compiled₁).eval σ, (compile_means compiled₂).eval σ]

/-- Against the empty table the first field is the first variable, against a
table that begins with the other field the second. -/
theorem Guard.compile_exact_otherTable :
    (Formula.and [.compare ⟨0⟩ .gt 1, .compare ⟨1⟩ .eq 0]).eval
        (SymbolTable.lookup ⟨["field_x", "field_y"], by decide⟩ fun name => if name = "field_x" then 5 else 0) =
      (Formula.and [.compare ⟨1⟩ .gt 1, .compare ⟨0⟩ .eq 0]).eval
        (SymbolTable.lookup ⟨["field_y", "field_x"], by decide⟩ fun name => if name = "field_x" then 5 else 0) := by
  let g : Guard := .protocol [.of "x" .gt (.integer 1), ⟨"y", .eq, none, none⟩]
  apply (compile_exact .legacy g _).2 .empty ⟨["field_y"], by decide⟩
  · rfl
  · rfl

end TransitionGuards
