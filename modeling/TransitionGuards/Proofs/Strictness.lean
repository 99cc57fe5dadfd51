import TransitionGuards.Analyzer
import TransitionGuards.Proofs.Compilation

/-
  Strict compilation is lenient compilation up to the first text that could not
  be read.

  An expression is compiled leaf by leaf, from left to right (`leaves`). Where
  no leaf is at fault, strictness changes nothing. Where one is, compilation
  ends with the first of them, and the names of the comparisons before it have
  been registered. `UpToFault` says so of an expression and of a list of them;
  constants that would have been folded away make no difference to it.
-/

namespace TransitionGuards

namespace Expression

mutual

def leaves : Expression → List Expression
  | .all parts => leavesAll parts
  | .any parts => leavesAll parts
  | e => [e]

def leavesAll : List Expression → List Expression
  | [] => []
  | e :: rest => leaves e ++ leavesAll rest

end

def name? : Expression → Option String
  | .compare c => some c.name
  | _ => none

/-- What is wrong with a leaf that could not be read. -/
def fault? : Expression → Option ParseError
  | .unparsed text reason => some ⟨text, reason⟩
  | _ => none

/-- The first fault among the leaves. -/
def firstFault (leaves : List Expression) : Option ParseError := leaves.findSome? fault?

/-- The names in the leaves before the first fault. -/
def namesRead (leaves : List Expression) : List String :=
  (leaves.takeWhile (·.fault?.isNone)).filterMap name?

variable {l l' : List Expression}

theorem leavesAll_eq : ∀ es : List Expression, leavesAll es = es.flatMap leaves
  | [] => rfl
  | e :: rest => by rw [leavesAll, leavesAll_eq rest, List.flatMap_cons]

theorem anyUnparsed_eq : ∀ es : List Expression, anyUnparsed es = es.any hasUnparsed
  | [] => rfl
  | e :: rest => by rw [anyUnparsed, anyUnparsed_eq rest, List.any_cons]

theorem firstFault_append (l l' : List Expression) : firstFault (l ++ l') = (firstFault l).or (firstFault l') :=
  List.findSome?_append

theorem firstFault_isSome_iff : (firstFault l).isSome = true ↔ ∃ leaf ∈ l, leaf.fault?.isSome = true :=
  List.findSome?_isSome_iff

/-- An expression has a leaf that could not be read exactly if there is a first
fault. -/
theorem hasUnparsed_iff (e : Expression) : e.hasUnparsed = true ↔ (firstFault e.leaves).isSome = true := by
  induction e with
  | empty => exact Iff.rfl
  | compare c => exact Iff.rfl
  | unparsed text reason => exact Iff.rfl
  | all parts ih | any parts ih =>
    rw [hasUnparsed, anyUnparsed_eq, List.any_eq_true, firstFault_isSome_iff, leaves, leavesAll_eq]
    constructor
    · rintro ⟨e, he, unparsed⟩
      obtain ⟨leaf, hl, fault⟩ := firstFault_isSome_iff.1 ((ih e he).1 unparsed)
      exact ⟨leaf, List.mem_flatMap.2 ⟨e, he, hl⟩, fault⟩
    · rintro ⟨leaf, hl, fault⟩
      obtain ⟨e, he, hl⟩ := List.mem_flatMap.1 hl
      exact ⟨e, he, (ih e he).2 (firstFault_isSome_iff.2 ⟨leaf, hl, fault⟩)⟩

theorem fault?_eq_some {leaf : Expression} {e : ParseError} (h : leaf.fault? = some e) :
    leaf = .unparsed e.expression e.reason := by
  cases leaf with
  | unparsed text reason => cases h; rfl
  | empty | compare | all | any => cases h

theorem namesRead_of_fault {leaf : Expression} {before : List Expression} (first : ∀ leaf ∈ before, leaf.fault? = none)
    (fault : leaf.fault? ≠ none) (after : List Expression) :
    namesRead (before ++ leaf :: after) = before.filterMap name? := by
  rw [namesRead, List.takeWhile_append_of_pos, List.takeWhile_cons, if_neg, List.append_nil]
  · simpa using fault
  · intro leaf hl
    simp [first leaf hl]

/-- A first fault is a leaf that could not be read, and no such leaf is before
it. -/
theorem exists_of_firstFault {e : ParseError} (h : firstFault l = some e) : ∃ before after,
    l = before ++ .unparsed e.expression e.reason :: after ∧ (∀ text reason, .unparsed text reason ∉ before) ∧
      namesRead l = before.filterMap name? := by
  obtain ⟨before, leaf, after, rfl, fault, first⟩ := List.findSome?_eq_some_iff.1 h
  refine ⟨before, after, by rw [fault?_eq_some fault], fun text reason unparsed => ?_, ?_⟩
  · cases first _ unparsed
  · exact namesRead_of_fault first (by simp [fault]) after

theorem namesRead_append_of_none (none : firstFault l = none) (l' : List Expression) :
    namesRead (l ++ l') = l.filterMap name? ++ namesRead l' := by
  rw [namesRead, List.takeWhile_append_of_pos, List.filterMap_append]
  · rfl
  · intro leaf hl
    rw [List.findSome?_eq_none_iff.1 none leaf hl]
    rfl

theorem namesRead_append_of_some {e : ParseError} (some : firstFault l = some e) (l' : List Expression) :
    namesRead (l ++ l') = namesRead l := by
  obtain ⟨before, leaf, after, rfl, fault, first⟩ := List.findSome?_eq_some_iff.1 some
  have found : leaf.fault? ≠ none := by simp [fault]
  rw [List.append_assoc, List.cons_append, namesRead_of_fault first found, namesRead_of_fault first found]

end Expression

/-! ## Strict and lenient compilation -/

/-- Whether a strict compilation of the leaves is the lenient one up to their
first fault. The lenient one registers all their names. -/
structure Compile.UpToFault {α : Type} (strict lenient : Compile α) (leaves : List Expression) : Prop where
  lenient_ok : ∀ table, ∃ a, lenient table = (.ok a, table.register (leaves.filterMap Expression.name?))
  agree : Expression.firstFault leaves = none → ∀ table, strict table = lenient table
  fault : ∀ e, Expression.firstFault leaves = some e →
    ∀ table, strict table = (.error e, table.register (Expression.namesRead leaves))

namespace Compile.UpToFault
open Expression

section
variable {α β : Type} {strict lenient : Compile α} {strict' lenient' : Compile β} {l : List Expression}

theorem map (h : UpToFault strict lenient l) (g : α → β)
    (hs : ∀ table, strict' table = ((strict table).1.map g, (strict table).2))
    (hl : ∀ table, lenient' table = ((lenient table).1.map g, (lenient table).2)) : UpToFault strict' lenient' l where
  lenient_ok table := by
    obtain ⟨a, ok⟩ := h.lenient_ok table
    exact ⟨g a, by rw [hl, ok]; rfl⟩
  agree none table := by rw [hs, hl, h.agree none]
  fault e first table := by rw [hs, h.fault e first]; rfl

end

section
variable {α : Type} {strict lenient : α → Compile Formula} {a : α} {rest : List α} {l l' : List Expression}

theorem cons (h : UpToFault (strict a) (lenient a) l) (h' : UpToFault (each strict rest) (each lenient rest) l') :
    UpToFault (each strict (a :: rest)) (each lenient (a :: rest)) (l ++ l') where
  lenient_ok table := by
    obtain ⟨f, first⟩ := h.lenient_ok table
    obtain ⟨fs, others⟩ := h'.lenient_ok (table.register (l.filterMap name?))
    refine ⟨f :: fs, ?_⟩
    rw [each, first, List.filterMap_append, SymbolTable.register_append]
    simp only [others, prepend]
    rfl
  agree none table := by
    obtain ⟨none, none'⟩ := Option.or_eq_none_iff.1 (firstFault_append l l' ▸ none)
    rw [each, each, h.agree none]
    split
    · rfl
    · rw [h'.agree none']
  fault e some table := by
    rw [firstFault_append] at some
    -- in the head, or behind a head whose names are then all registered
    cases first : firstFault l with
    | some e' =>
      rw [first] at some
      cases some
      rw [each, h.fault e first, namesRead_append_of_some first]
    | none =>
      rw [first] at some
      obtain ⟨f, ok⟩ := h.lenient_ok table
      rw [each, h.agree first, ok, namesRead_append_of_none first, SymbolTable.register_append]
      simp only [h'.fault e some, prepend]
      rfl

theorem each {leaves : α → List Expression} : ∀ {as : List α},
    (∀ a ∈ as, UpToFault (strict a) (lenient a) (leaves a)) →
    UpToFault (Compile.each strict as) (Compile.each lenient as) (as.flatMap leaves)
  | [], _ => ⟨fun _ => ⟨[], rfl⟩, fun _ _ => rfl, nofun⟩
  | a :: _, h => cons (h a (List.mem_cons_self ..)) (each fun b hb => h b (List.mem_cons_of_mem _ hb))

end

end Compile.UpToFault

theorem Expression.upToFault (e : Expression) : Compile.UpToFault (e.compile true) (e.compile false) e.leaves := by
  induction e with
  | empty => exact ⟨fun table => ⟨_, rfl⟩, fun _ _ => rfl, nofun⟩
  -- the one leaf that registers a name
  | compare c => exact ⟨fun table => ⟨_, rfl⟩, fun _ _ => rfl, nofun⟩
  | unparsed text reason =>
    refine ⟨fun table => ⟨_, rfl⟩, nofun, fun e fault table => ?_⟩
    cases fault
    rfl
  | all parts ih =>
    rw [leaves, leavesAll_eq]
    refine (Compile.UpToFault.each ih).map Formula.conj (fun table => ?_) (fun table => ?_)
    · rw [compile, compileList_eq]
    · rw [compile, compileList_eq]
  | any parts ih =>
    rw [leaves, leavesAll_eq]
    refine (Compile.UpToFault.each ih).map Formula.disj (fun table => ?_) (fun table => ?_)
    · rw [compile, compileList_eq]
    · rw [compile, compileList_eq]

/-! ## Guards -/

namespace Guard
variable {precedence : Precedence} {g : Guard} {table : SymbolTable}

/-- The first fault in the text of a guard. -/
def fault? (precedence : Precedence) : Guard → Option ParseError
  | .manual text => Expression.firstFault (Expression.parse precedence text).leaves
  | _ => none

theorem fault?_of_isVacuous (h : g.isVacuous = true) : g.fault? precedence = none := by
  cases g with
  | alwaysTrue | protocol => rfl
  | manual text =>
    rw [isVacuous] at h
    simp only [fault?, Expression.parse, h, if_true]
    rfl

theorem compile_of_no_fault (h : g.fault? precedence = none) (table : SymbolTable) :
    g.compile ⟨precedence, true⟩ table = g.compile ⟨precedence, false⟩ table := by
  unfold compile
  split
  · rfl
  · cases g with
    | alwaysTrue | protocol => rfl
    | manual text => exact (Expression.parse precedence text).upToFault.agree h table

/-- A guard with a fault is a text that is not blank, and is compiled up to it. -/
theorem compile_of_fault {e : ParseError} (h : g.fault? precedence = some e) : ∃ text, g = .manual text ∧
    allBlank text.toList = false ∧ ∀ table, g.compile ⟨precedence, true⟩ table =
      (.error e, table.register (Expression.namesRead (Expression.parse precedence text).leaves)) := by
  cases vacuous : g.isVacuous with
  | true =>
    rw [fault?_of_isVacuous vacuous] at h
    cases h
  | false =>
    cases g with
    | alwaysTrue | protocol => cases h
    | manual text =>
      refine ⟨text, rfl, vacuous, fun table => ?_⟩
      rw [compile, vacuous]
      exact (Expression.parse precedence text).upToFault.fault e h table

/-- What the compilation of the guard fails with. -/
def rejection? (mode : CompileMode) (g : Guard) : Option ParseError :=
  match (g.compile mode .empty).1 with
  | .error e => some e
  | .ok _ => none

/-- Strict compilation fails with the fault of a guard, whatever the table. -/
theorem compile_strict_error_iff {e : ParseError} (table : SymbolTable) :
    (g.compile ⟨precedence, true⟩ table).1 = .error e ↔ g.fault? precedence = some e := by
  cases h : g.fault? precedence with
  | none =>
    have lenient : (CompileMode.mk precedence false).strict = false := rfl
    obtain ⟨f, ok⟩ := compile_ok lenient g table
    rw [compile_of_no_fault h, ok]
    exact ⟨nofun, nofun⟩
  | some e' =>
    obtain ⟨text, rfl, _, failed⟩ := compile_of_fault h
    rw [failed]
    simp

theorem rejection?_eq_some_iff {mode : CompileMode} {e : ParseError} :
    g.rejection? mode = some e ↔ (g.compile mode .empty).1 = .error e := by
  unfold rejection?
  split
  · next e' failed => rw [failed]; simp
  · next f ok => rw [ok]; simp

theorem rejection?_strict : g.rejection? ⟨precedence, true⟩ = g.fault? precedence := by
  ext e
  rw [rejection?_eq_some_iff, compile_strict_error_iff]

/-- The table a guard is compiled against has no part in its rejection. -/
theorem compile_error_iff (mode : CompileMode) (g : Guard) (e : ParseError) (table : SymbolTable) :
    (g.compile mode table).1 = .error e ↔ g.rejection? mode = some e := by
  rw [rejection?_eq_some_iff]
  obtain ⟨precedence, strict⟩ := mode
  cases strict with
  | true => rw [compile_strict_error_iff, compile_strict_error_iff]
  | false =>
    have lenient : (CompileMode.mk precedence false).strict = false := rfl
    obtain ⟨f, ok⟩ := compile_ok lenient g table
    obtain ⟨f', ok'⟩ := compile_ok lenient g .empty
    rw [ok, ok']
    exact ⟨nofun, nofun⟩

end Guard

/-! ## Lists of guards -/

namespace Compile
variable {α : Type} {c c' : α → Compile Formula}

/-- A list is compiled up to the first that is rejected. -/
theorem each_error_iff {rejection? : α → Option ParseError} {e : ParseError}
    (rejects : ∀ a e table, (c a table).1 = .error e ↔ rejection? a = some e) :
    ∀ (as : List α) (table : SymbolTable), (each c as table).1 = .error e ↔ as.findSome? rejection? = some e
  | [], _ => ⟨nofun, nofun⟩
  | a :: rest, table => by
    have first := fun e => rejects a e table
    rw [each, List.findSome?_cons]
    split
    · next e' table' failed =>
      rw [(first e').1 (by rw [failed])]
      simp
    · next f table' ok =>
      -- the first compiles, so it is the rest that is rejected or not
      have none : rejection? a = none := by
        rw [Option.eq_none_iff_forall_ne_some]
        intro e' some
        have failed := (first e').2 some
        rw [ok] at failed
        cases failed
      rw [none, ← each_error_iff rejects rest table']
      show Except.map _ _ = _ ↔ _
      cases (each c rest table').1 <;> simp [Except.map]

theorem each_congr : ∀ {as : List α}, (∀ a ∈ as, c a = c' a) → each c as = each c' as
  | [], _ => rfl
  | a :: _, h => by
    funext table
    rw [each, each, h a (List.mem_cons_self ..), each_congr fun b hb => h b (List.mem_cons_of_mem _ hb)]

end Compile

namespace Guard
variable {precedence : Precedence} {mode : CompileMode} {guards : List Guard} {table : SymbolTable}

/-- The first guard that is rejected ends the compilation of a list. -/
theorem compileList_rejected {e : ParseError} (rejected : guards.findSome? (·.rejection? mode) = some e)
    (table : SymbolTable) : ∃ table', compileList mode guards table = (.error e, table') := by
  have failed := (Compile.each_error_iff (compile_error_iff mode) guards table).2 rejected
  rw [← compileList_eq] at failed
  exact ⟨_, Prod.ext failed rfl⟩

theorem compileList_accepted (accepted : guards.findSome? (·.rejection? mode) = none) (table : SymbolTable) :
    ∃ fs table', compileList mode guards table = (.ok fs, table') := by
  cases h : compileList mode guards table with
  | mk result table' =>
    cases result with
    | ok fs => exact ⟨fs, table', rfl⟩
    | error e =>
      have rejected := (Compile.each_error_iff (compile_error_iff mode) guards table).1
        (by rw [← compileList_eq, h])
      rw [accepted] at rejected
      cases rejected

/-- Guards of which none is rejected are compiled as without strictness. -/
theorem compileList_strict (accepted : guards.findSome? (·.rejection? ⟨precedence, true⟩) = none)
    (table : SymbolTable) : compileList ⟨precedence, true⟩ guards table = compileList ⟨precedence, false⟩ guards table := by
  have same : ∀ g ∈ guards, g.compile ⟨precedence, true⟩ = g.compile ⟨precedence, false⟩ := by
    intro g hg
    have none := List.findSome?_eq_none_iff.1 accepted g hg
    rw [rejection?_strict] at none
    exact funext (compile_of_no_fault none)
  rw [compileList_eq, compileList_eq, Compile.each_congr same]

end Guard

/-! ## Analyzers -/

namespace Analyzer

def withStrict {m : Type → Type} (a : Analyzer m) (strict : Bool) : Analyzer m :=
  { a with config := { a.config with strict := strict } }

section
variable {m : Type → Type} [Monad m] {a : Analyzer m} {g₁ g₂ : Guard} {guards : List Guard} {declared : List Variable}
  {e : ParseError}

theorem tryCheckPair_rejected (rejected : [g₁, g₂].findSome? (·.rejection? a.mode) = some e) :
    a.tryCheckPair g₁ g₂ = pure (.error (.parse e)) := by
  obtain ⟨table, failed⟩ := Guard.compileList_rejected rejected .empty
  simp only [tryCheckPair, failed]

theorem tryCheckComplete_rejected (rejected : guards.findSome? (·.rejection? a.mode) = some e) :
    a.tryCheckComplete guards declared = pure (.error (.parse e)) := by
  obtain ⟨table, failed⟩ := Guard.compileList_rejected rejected .empty
  simp only [tryCheckComplete, failed]

/-- Whether the strict run is the lenient one, or the fallback for what is wrong
with one of the guards. -/
def Refines {α : Type} (precedence : Precedence) (guards : List Guard) (fallback : String → α) (strict lenient : m α) :
    Prop :=
  strict = lenient ∨ ∃ g ∈ guards, ∃ e, g.fault? precedence = some e ∧
    strict = pure (fallback (AnalysisError.parse e).message)

variable [LawfulMonad m]

theorem checkPair_refines (a : Analyzer m) (g₁ g₂ : Guard) :
    Refines a.config.precedence [g₁, g₂] .fallback ((a.withStrict true).checkPair g₁ g₂)
      ((a.withStrict false).checkPair g₁ g₂) := by
  cases h : [g₁, g₂].findSome? (·.rejection? (a.withStrict true).mode) with
  | none =>
    left
    have same : Guard.compileList (a.withStrict true).mode [g₁, g₂] .empty =
        Guard.compileList (a.withStrict false).mode [g₁, g₂] .empty := Guard.compileList_strict h .empty
    rw [checkPair, checkPair, tryCheckPair, tryCheckPair, same]
    rfl
  | some e =>
    right
    obtain ⟨g, hg, rejected⟩ := List.exists_of_findSome?_eq_some h
    refine ⟨g, hg, e, Guard.rejection?_strict ▸ rejected, ?_⟩
    rw [checkPair, tryCheckPair_rejected h, pure_bind]

theorem checkComplete_refines (a : Analyzer m) (guards : List Guard) (declared : List Variable) :
    Refines a.config.precedence guards .fallback ((a.withStrict true).checkComplete guards declared)
      ((a.withStrict false).checkComplete guards declared) := by
  cases h : guards.findSome? (·.rejection? (a.withStrict true).mode) with
  | none =>
    left
    have same : Guard.compileList (a.withStrict true).mode guards .empty =
        Guard.compileList (a.withStrict false).mode guards .empty := Guard.compileList_strict h .empty
    rw [checkComplete, checkComplete, tryCheckComplete, tryCheckComplete, same]
    rfl
  | some e =>
    right
    obtain ⟨g, hg, rejected⟩ := List.exists_of_findSome?_eq_some h
    refine ⟨g, hg, e, Guard.rejection?_strict ▸ rejected, ?_⟩
    rw [checkComplete, tryCheckComplete_rejected h, pure_bind]

end

end Analyzer

/-! ## The whole -/

/-- Strict compilation fails exactly on text with a leaf that could not be read,
with the first such leaf, and with the names of the comparisons before it
registered; otherwise it is lenient compilation. A strict analyzer therefore
answers as the lenient one does, or with a fallback for one of the guards. -/
theorem Guard.strict_exact {m : Type → Type} [Monad m] [LawfulMonad m] (precedence : Precedence) (g : Guard)
    (table : SymbolTable) (a : Analyzer m) (g₁ g₂ : Guard) (guards : List Guard) (declared : List Variable) :
    ((∃ e, (g.compile ⟨precedence, true⟩ table).1 = .error e) ↔
      ∃ text, g = .manual text ∧ allBlank text.toList = false ∧
        (Expression.parse precedence text).hasUnparsed = true) ∧
    (∀ e, (g.compile ⟨precedence, true⟩ table).1 = .error e → ∃ text before after, g = .manual text ∧
      (Expression.parse precedence text).leaves = before ++ .unparsed e.expression e.reason :: after ∧
      (∀ text reason, .unparsed text reason ∉ before) ∧
      (g.compile ⟨precedence, true⟩ table).2.names =
        table.names ++ table.newNames (before.filterMap Expression.name?)) ∧
    ((∀ e, (g.compile ⟨precedence, true⟩ table).1 ≠ .error e) →
      g.compile ⟨precedence, true⟩ table = g.compile ⟨precedence, false⟩ table) ∧
    Analyzer.Refines a.config.precedence [g₁, g₂] .fallback
      ((a.withStrict true).checkPair g₁ g₂) ((a.withStrict false).checkPair g₁ g₂) ∧
    Analyzer.Refines a.config.precedence guards .fallback
      ((a.withStrict true).checkComplete guards declared) ((a.withStrict false).checkComplete guards declared) := by
  refine ⟨⟨?_, ?_⟩, ?_, ?_, a.checkPair_refines g₁ g₂, a.checkComplete_refines guards declared⟩
  · rintro ⟨e, failed⟩
    have fault := (compile_strict_error_iff table).1 failed
    obtain ⟨text, rfl, proper, _⟩ := compile_of_fault fault
    refine ⟨text, rfl, proper, (Expression.hasUnparsed_iff _).2 ?_⟩
    exact Option.isSome_iff_exists.2 ⟨e, fault⟩
  · rintro ⟨text, rfl, _, unparsed⟩
    obtain ⟨e, fault⟩ := Option.isSome_iff_exists.1 ((Expression.hasUnparsed_iff _).1 unparsed)
    exact ⟨e, (compile_strict_error_iff table).2 fault⟩
  · intro e failed
    have fault := (compile_strict_error_iff table).1 failed
    obtain ⟨text, rfl, _, stops⟩ := compile_of_fault fault
    -- the leaves part at the fault, and the names registered are those before it
    obtain ⟨before, after, leaves, first, read⟩ := Expression.exists_of_firstFault fault
    refine ⟨text, before, after, rfl, leaves, first, ?_⟩
    rw [stops, SymbolTable.names_register, read]
  · intro accepted
    apply compile_of_no_fault
    rw [Option.eq_none_iff_forall_ne_some]
    exact fun e fault => accepted e ((compile_strict_error_iff table).2 fault)

/-- A text with a part in the middle that cannot be read. -/
def faultBetween : Guard := .manual "x > 1 && y >>> 2 && z == 3"

theorem Guard.strict_exact_faultBetween :
    let table := SymbolTable.empty.register ["w"]
    let a : Analyzer Id := .default .nominal
    (∃ e : ParseError, ∃ text before after, faultBetween = .manual text ∧
      (Expression.parse .legacy text).leaves = before ++ .unparsed e.expression e.reason :: after ∧
      table.names ++ table.newNames (before.filterMap Expression.name?) = ["w", "x"]) ∧
    Analyzer.Refines .legacy [faultBetween, .alwaysTrue] .fallback
      ((a.withStrict true).checkPair faultBetween .alwaysTrue)
      ((a.withStrict false).checkPair faultBetween .alwaysTrue) := by
  intro table a
  have whole := strict_exact .legacy faultBetween table a faultBetween .alwaysTrue [] []
  obtain ⟨e, failed⟩ := whole.1.2 ⟨_, rfl, by decide +kernel, by decide +kernel⟩
  obtain ⟨text, before, after, same, leaves, _, names⟩ := whole.2.1 e failed
  have registered : (faultBetween.compile ⟨.legacy, true⟩ table).2.names = ["w", "x"] := by decide +kernel
  exact ⟨⟨e, text, before, after, same, leaves, names ▸ registered⟩, whole.2.2.2.1⟩

end TransitionGuards
