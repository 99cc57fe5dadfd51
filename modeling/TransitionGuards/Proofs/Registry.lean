import TransitionGuards.Proofs.Compilation
import TransitionGuards.Proofs.Success

/-
  Symbol tables in two parts, changed in place.

  A `SymbolTable` has its names and looks for a name among them. A `Registry` has the
  names, and a map that finds the variable of a name. A new name is put into both
  parts, and compilation changes the one registry that it is run on, also when it
  fails. Whatever is done, the two parts stay those of a symbol table, and what comes
  of it is the same: of registering a name (`agree_intern`) and of compiling a guard
  (`agree_compile`). So all that is said of symbol tables is said of registries.
-/

namespace TransitionGuards

/-- The names of the variables, and the variables by name. -/
structure Registry where
  names : Array String
  ids : Std.HashMap String VarId

/-- Parts of a compilation. What has been registered stays so when it fails. -/
abbrev Registering := ExceptT ParseError (StateM Registry)

namespace Registry

def empty : Registry := ⟨#[], ∅⟩

def get? (r : Registry) (name : String) : Option VarId := r.ids[name]?

def name? (r : Registry) (x : VarId) : Option String := r.names[x.index]?

/-- The variable under the name. A new name is put into both parts. -/
def intern (name : String) : StateM Registry VarId := fun r =>
  match r.ids[name]? with
  | some x => (x, r)
  | none => (⟨r.names.size⟩, ⟨r.names.push name, r.ids.insert name ⟨r.names.size⟩⟩)

def comparison (name : String) (comparator : Comparator) (value : Int64) : Registering Formula := do
  let x ← intern name
  pure (.compare x comparator value)

mutual

def compileExpression (strict : Bool) : Expression → Registering Formula
  | .empty => pure (.const true)
  | .compare c => comparison c.name c.comparator c.value
  | .all parts => Formula.conj <$> compileExpressions strict parts
  | .any parts => Formula.disj <$> compileExpressions strict parts
  | .unparsed text reason => if strict then throw ⟨text, reason⟩ else pure (.const true)

def compileExpressions (strict : Bool) : List Expression → Registering (List Formula)
  | [] => pure []
  | e :: rest => do
    let f ← compileExpression strict e
    let fs ← compileExpressions strict rest
    pure (f :: fs)

end

def compile (mode : CompileMode) (g : Guard) : Registering Formula :=
  if g.isVacuous then pure (.const true)
  else match g with
    | .alwaysTrue => pure (.const true)
    | .protocol conditions =>
      Formula.conj <$> conditions.mapM fun c => comparison c.variableName c.comparator c.code
    | .manual text => compileExpression mode.strict (Expression.parse mode.precedence text)

/-! ## Both kinds of tables agree -/

/-- Whether the parts are the names of the table and the variables that it finds. -/
structure Matches (r : Registry) (table : SymbolTable) : Prop where
  names : r.names.toList = table.names
  ids : ∀ name, r.ids[name]? = table.get? name

variable {r : Registry} {table : SymbolTable}

theorem matches_empty : Matches empty .empty := ⟨rfl, fun _ => Std.HashMap.getElem?_empty⟩

theorem Matches.get? (h : r.Matches table) (name : String) : r.get? name = table.get? name := h.ids name

theorem Matches.name? (h : r.Matches table) (x : VarId) : r.name? x = table.name? x := by
  rw [Registry.name?, ← Array.getElem?_toList, h.names]
  rfl

/-- Whether matching tables lead to the same result and to matching tables. -/
def Agree {α : Type} (plain : SymbolTable → α × SymbolTable) (inPlace : Registry → α × Registry) : Prop :=
  ∀ table r, r.Matches table → (inPlace r).1 = (plain table).1 ∧ (inPlace r).2.Matches (plain table).2

theorem agree_intern (name : String) : Agree (·.intern name) (intern name) := by
  intro table r tables
  have found := tables.ids name
  dsimp only
  unfold intern
  rcases table.intern_cases name with ⟨x, known, same⟩ | ⟨new, same⟩
  · rw [found, known, same]
    exact ⟨rfl, tables⟩
  · have unknown : table.get? name = none := by
      rw [SymbolTable.get?, List.idxOf?_eq_none_iff.2 new]
      rfl
    have size : r.names.size = table.names.length := by rw [← tables.names, Array.length_toList]
    rw [found, unknown, same, size]
    refine ⟨rfl, ?_, getElem?_insert_place tables.ids new⟩
    show (r.names.push name).toList = table.names ++ [name]
    rw [Array.toList_push, tables.names]

namespace Agree
variable {α β : Type} {c : Compile α} {c' : Registering α}

theorem done (a : α) : Agree (fun table => (.ok a, table)) (pure a : Registering α).run :=
  fun _ _ tables => ⟨rfl, tables⟩

theorem failed (e : ParseError) : Agree (fun table => (.error e, table)) (throw e : Registering α).run :=
  fun _ _ tables => ⟨rfl, tables⟩

theorem map (h : Agree c c'.run) (g : α → β) :
    Agree (fun table => ((c table).1.map g, (c table).2)) (g <$> c').run := by
  intro table r tables
  obtain ⟨same, later⟩ := h table r tables
  have mapped : (g <$> c').run r = ((c'.run r).1.map g, (c'.run r).2) := by
    rw [map_eq_pure_bind, run_bind_state]
    rcases c'.run r with ⟨_ | _, _⟩ <;> rfl
  rw [mapped]
  exact ⟨congrArg (Except.map g) same, later⟩

theorem cons {plain : Compile Formula} {inPlace : Registering Formula} {others : Compile (List Formula)}
    {others' : Registering (List Formula)} (first : Agree plain inPlace.run) (more : Agree others others'.run) :
    Agree (fun table =>
        match plain table with
        | (.error e, table) => (.error e, table)
        | (.ok f, table) => Compile.prepend f (others table))
      (do let f ← inPlace; let fs ← others'; pure (f :: fs)).run := by
  intro table r tables
  obtain ⟨same, later⟩ := first table r tables
  rw [run_bind_state]
  dsimp only
  generalize plain table = ended at same later
  generalize inPlace.run r = ended' at same later
  obtain ⟨_ | f, table⟩ := ended <;> obtain ⟨_, r⟩ := ended' <;> obtain rfl := same
  · exact ⟨rfl, later⟩
  · show ((do let fs ← others'; pure (f :: fs) : Registering (List Formula)).run r).1 = _ ∧ Matches _ _
    rw [← map_eq_pure_bind]
    exact more.map (f :: ·) table r later

end Agree

theorem agree_comparison (name : String) (comparator : Comparator) (value : Int64) :
    Agree (fun table => (.ok (.compare (table.intern name).1 comparator value), (table.intern name).2))
      (comparison name comparator value).run := by
  intro table r tables
  obtain ⟨same, later⟩ := agree_intern name table r tables
  refine ⟨?_, later⟩
  show Except.ok (Formula.compare (intern name r).1 comparator value) = _
  rw [same]

theorem agree_compileExpressions {strict : Bool} : ∀ {es : List Expression},
    (∀ e ∈ es, Agree (e.compile strict) (compileExpression strict e).run) →
    Agree (Expression.compileList strict es) (compileExpressions strict es).run
  | [], _ => .done []
  | e :: _, each => by
    have first := each e (List.mem_cons_self ..)
    exact first.cons (agree_compileExpressions fun d hd => each d (List.mem_cons_of_mem _ hd))

theorem agree_compileExpression (strict : Bool) (e : Expression) :
    Agree (e.compile strict) (compileExpression strict e).run := by
  induction e with
  | empty => exact .done _
  | compare c => exact agree_comparison c.name c.comparator c.value
  | all parts ih => exact (agree_compileExpressions ih).map Formula.conj
  | any parts ih => exact (agree_compileExpressions ih).map Formula.disj
  | unparsed text reason =>
    cases strict with
    | false => exact .done _
    | true => exact .failed _

theorem agree_conditions : ∀ conditions : List FieldCondition,
    Agree (fun table => (.ok (FieldCondition.compileList conditions table).1, (FieldCondition.compileList conditions table).2))
      (conditions.mapM fun c => comparison c.variableName c.comparator c.code).run
  | [] => .done []
  | c :: rest => by
    rw [List.mapM_cons]
    exact (agree_comparison c.variableName c.comparator c.code).cons (agree_conditions rest)

theorem agree_compile (mode : CompileMode) (g : Guard) : Agree (g.compile mode) (compile mode g).run := by
  intro table r tables
  unfold Guard.compile Registry.compile
  split
  · exact Agree.done _ table r tables
  · cases g with
    | alwaysTrue => exact Agree.done _ table r tables
    | protocol conditions => exact (agree_conditions conditions).map Formula.conj table r tables
    | manual text => exact agree_compileExpression mode.strict _ table r tables

end Registry

end TransitionGuards
