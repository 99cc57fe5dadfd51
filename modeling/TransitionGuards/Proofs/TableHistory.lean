import TransitionGuards.Proofs.QueryNames
import TransitionGuards.Proofs.Registry

/-
  Tables through any history of calls.

  A table is called to register a name or to compile a guard, in whatever mode, and
  goes on after a compilation that fails. One call leaves every name where it is, and
  what it replies is right under the table behind it (`serve_answered`). So all that
  was ever replied is right under the table at the end (`serveAll_answered`): names
  belong to the variables that were replied for them, and the atoms of the formulas
  are in scope of the guards they were compiled from.
-/

namespace TransitionGuards

/-- What a table may be called for. -/
inductive TableCall where
  | register (name : String)
  | compile (mode : CompileMode) (g : Guard)

/-- What comes of a call. -/
inductive TableReply where
  | registered (x : VarId)
  | compiled (result : Except ParseError Formula)

def TableCall.comparisons : TableCall → List Comparison
  | .register _ => []
  | .compile mode g => g.comparisons mode.precedence

/-- The atoms of the formula, if the call was for one and there is one. -/
def TableReply.atoms : TableReply → List Atom
  | .registered _ => []
  | .compiled (.ok f) => f.atoms
  | .compiled (.error _) => []

def SymbolTable.serve : TableCall → StateM SymbolTable TableReply
  | .register name => fun table => (.registered (table.intern name).1, (table.intern name).2)
  | .compile mode g => fun table => (.compiled (g.compile mode table).1, (g.compile mode table).2)

def SymbolTable.serveAll (calls : List TableCall) : StateM SymbolTable (List TableReply) := calls.mapM serve

def Registry.serve : TableCall → StateM Registry TableReply
  | .register name => .registered <$> intern name
  | .compile mode g => .compiled <$> (compile mode g).run

def Registry.serveAll (calls : List TableCall) : StateM Registry (List TableReply) := calls.mapM serve

/-! ## Registries reply like tables -/

namespace Registry

theorem agree_serve : ∀ call : TableCall, Agree (SymbolTable.serve call) (serve call)
  | .register name => by
    intro table r tables
    obtain ⟨same, later⟩ := agree_intern name table r tables
    exact ⟨congrArg TableReply.registered same, later⟩
  | .compile mode g => by
    intro table r tables
    obtain ⟨same, later⟩ := agree_compile mode g table r tables
    exact ⟨congrArg TableReply.compiled same, later⟩

theorem agree_serveAll : ∀ calls : List TableCall, Agree (SymbolTable.serveAll calls) (serveAll calls)
  | [] => fun _ _ tables => ⟨rfl, tables⟩
  | call :: rest => by
    intro table r tables
    obtain ⟨same, later⟩ := agree_serve call table r tables
    obtain ⟨same', later'⟩ := agree_serveAll rest _ _ later
    rw [SymbolTable.serveAll, serveAll, List.mapM_cons, List.mapM_cons]
    exact ⟨congrArg₂ List.cons same same', later'⟩

end Registry

/-! ## Replies stay right -/

namespace SymbolTable
variable {table table' : SymbolTable} {call : TableCall} {reply : TableReply} {calls : List TableCall}
  {replies : List TableReply}

/-- Whether the reply to the call is right under the table: the variable has the name
that it was registered for, the formula is written as the comparisons of the guard,
and what is rejected is at fault. -/
inductive Answered (table : SymbolTable) : TableCall → TableReply → Prop where
  | registered {name : String} {x : VarId} (named : table.name? x = some name) :
      Answered table (.register name) (.registered x)
  | compiled {mode : CompileMode} {g : Guard} {f : Formula} (spells : table.Spells f.atoms (g.comparisons mode.precedence)) :
      Answered table (.compile mode g) (.compiled (.ok f))
  | rejected {mode : CompileMode} {g : Guard} {e : ParseError} (fault : g.rejection? mode = some e) :
      Answered table (.compile mode g) (.compiled (.error e))

theorem Answered.later (h : table.Answered call reply) (ext : table'.Extends table) : table'.Answered call reply := by
  cases h with
  | registered named => exact .registered (ext.name? named)
  | compiled spells => exact .compiled (spells.later ext)
  | rejected fault => exact .rejected fault

theorem Answered.spells (h : table.Answered call reply) : table.Spells reply.atoms call.comparisons := by
  cases h with
  | registered => exact .nil ..
  | compiled spells => exact spells
  | rejected => exact .nil ..

theorem serve_answered (call : TableCall) (table : SymbolTable) :
    ((serve call).run table).2.Extends table ∧
      ((serve call).run table).2.Answered call ((serve call).run table).1 := by
  cases call with
  | register name => exact ⟨table.extends_intern name, .registered (table.name?_intern name)⟩
  | compile mode g =>
    refine ⟨g.extends_compile mode table, ?_⟩
    show Answered (g.compile mode table).2 _ (.compiled (g.compile mode table).1)
    cases compiled : g.compile mode table with
    | mk result table' =>
      cases result with
      | ok f => exact .compiled (Guard.compile_spells compiled)
      | error e => exact .rejected ((Guard.compile_error_iff mode g e table).1 (congrArg Prod.fst compiled))

theorem serveAll_answered : ∀ (calls : List TableCall) (table : SymbolTable),
    ((serveAll calls).run table).2.Extends table ∧
      List.Forall₂ ((serveAll calls).run table).2.Answered calls ((serveAll calls).run table).1
  | [], table => ⟨.refl table, .nil⟩
  | call :: rest, table => by
    obtain ⟨ext, first⟩ := serve_answered call table
    obtain ⟨ext', others⟩ := serveAll_answered rest ((serve call).run table).2
    rw [serveAll, List.mapM_cons]
    exact ⟨ext'.trans ext, .cons (first.later ext') others⟩

/-- What holds of a table that has served the calls with these replies. -/
structure Served (table : SymbolTable) (calls : List TableCall) (replies : List TableReply) : Prop where
  distinct : table.names.Nodup
  found : ∀ name x, table.get? name = some x ↔ table.name? x = some name
  answered : List.Forall₂ table.Answered calls replies
  inScope : table.InScope (replies.flatMap TableReply.atoms) (calls.flatMap TableCall.comparisons)

/-- More calls go on with the table that is there, keep its variables and add to the
replies. -/
theorem serveAll_append (earlier later : List TableCall) (table : SymbolTable) :
    ((serveAll earlier).run table).1 <+: ((serveAll (earlier ++ later)).run table).1 ∧
      ((serveAll (earlier ++ later)).run table).2.Extends ((serveAll earlier).run table).2 := by
  have goesOn : (serveAll (earlier ++ later)).run table =
      (((serveAll earlier).run table).1 ++ ((serveAll later).run ((serveAll earlier).run table).2).1,
        ((serveAll later).run ((serveAll earlier).run table).2).2) := by
    rw [serveAll, List.mapM_append]
    rfl
  rw [goesOn]
  exact ⟨List.prefix_append .., (serveAll_answered later _).1⟩

theorem served_serveAll (calls : List TableCall) (table : SymbolTable) :
    ((serveAll calls).run table).2.Served calls ((serveAll calls).run table).1 where
  distinct := SymbolTable.distinct _
  found _ _ := get?_eq_some_iff
  answered := (serveAll_answered calls table).2
  inScope := by
    have each := (serveAll_answered calls table).2.imp fun _ _ answered => answered.spells
    exact (Spells.flatMap each.flip).inScope

/-- Whatever is registered and compiled on one table, failures included, names and
variables determine each other, variables keep their names, and the atoms of all
formulas are in scope of the guards. So it is on a table of two parts that is changed
in place. And the queries of an analysis, whatever is answered, have only atoms in
scope of what is analysed, and a name for every variable of a witness. -/
theorem serve_consistent (earlier later : List TableCall) :
    let before : List TableReply × SymbolTable := (serveAll earlier).run .empty
    let after : List TableReply × SymbolTable := (serveAll (earlier ++ later)).run .empty
    let inPlace : List TableReply × Registry := (Registry.serveAll (earlier ++ later)).run .empty
    after.2.Served (earlier ++ later) after.1 ∧
    (before.1 <+: after.1 ∧ ∀ x name, before.2.name? x = some name → after.2.name? x = some name) ∧
    (inPlace.1 = after.1 ∧ inPlace.2.Matches after.2 ∧ inPlace.2.names.toList.Nodup ∧
      ∀ name x, inPlace.2.get? name = some x ↔ inPlace.2.name? x = some name) ∧
    ∀ config answer, (Analyzer.recording config answer).AsksInScope := by
  intro before after inPlace
  obtain ⟨added, ext⟩ := serveAll_append earlier later .empty
  -- the registry changed in place is the table all along
  obtain ⟨same, tables⟩ : inPlace.1 = after.1 ∧ inPlace.2.Matches after.2 :=
    Registry.agree_serveAll (earlier ++ later) .empty .empty Registry.matches_empty
  refine ⟨served_serveAll _ _, ⟨added, fun x name => ext.name?⟩, ⟨same, tables, ?_, fun name x => ?_⟩,
    Analyzer.asks_inScope⟩
  · rw [tables.names]
    exact after.2.distinct
  · rw [tables.get?, tables.name?]
    exact get?_eq_some_iff

/-- A text that is rejected leaves the name before its fault. A field, and the name of
that field in text, are one variable. -/
theorem serve_consistent_rejectedBetween :
    let calls : List TableCall := [.register "b", .compile ⟨.legacy, true⟩ (.manual "a > 1 && ?"),
      .compile ⟨.standard, true⟩ (.protocol [.of "a" .eq (.integer 1)]), .compile .default (.manual "field_a > 2 && a < 3")]
    let inPlace : List TableReply × Registry := (Registry.serveAll calls).run .empty
    inPlace.2.names.toList = ["b", "a", "field_a"] ∧ inPlace.2.get? "a" = some ⟨1⟩ ∧
      inPlace.1.flatMap TableReply.atoms = [⟨⟨2⟩, .eq, 1⟩, ⟨⟨2⟩, .gt, 2⟩, ⟨⟨1⟩, .lt, 3⟩] := by
  intro calls inPlace
  obtain ⟨_, _, ⟨same, tables, _, found⟩, _⟩ := serve_consistent (calls.take 2) (calls.drop 2)
  have names : ((serveAll calls).run empty).2.names = ["b", "a", "field_a"] := by decide +kernel
  have atoms : ((serveAll calls).run empty).1.flatMap TableReply.atoms =
      [⟨⟨2⟩, .eq, 1⟩, ⟨⟨2⟩, .gt, 2⟩, ⟨⟨1⟩, .lt, 3⟩] := by decide +kernel
  refine ⟨tables.names.trans names, (found "a" ⟨1⟩).2 ?_, (congrArg _ same).trans atoms⟩
  rw [tables.name?]
  exact congrArg (·[1]?) names

end SymbolTable

end TransitionGuards
