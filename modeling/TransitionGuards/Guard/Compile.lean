import TransitionGuards.Expression.Reader
import TransitionGuards.Guard.Code
import TransitionGuards.SymbolTable

/-
  From guards to formulas. Names are registered in a symbol table as they are
  met, so that guards compiled one after another against the same table share
  their variables. Text that could not be read compiles to `true`, or, in
  strict mode, ends the compilation; names met before stay registered.
-/

namespace TransitionGuards

structure CompileMode where
  precedence : Precedence
  /-- Whether text that could not be read is an error. -/
  strict : Bool
  deriving DecidableEq, Inhabited

def CompileMode.default : CompileMode := ⟨.legacy, false⟩

/-- A compilation: from the table before to a result and the table after. -/
abbrev Compile (α : Type) := SymbolTable → Except ParseError α × SymbolTable

mutual

def Expression.compile (strict : Bool) : Expression → Compile Formula
  | .empty, table => (.ok (.const true), table)
  | .compare c, table =>
    let (x, table) := table.intern c.name
    (.ok (.compare x c.comparator c.value), table)
  | .all parts, table =>
    let (result, table) := Expression.compileList strict parts table
    (result.map Formula.conj, table)
  | .any parts, table =>
    let (result, table) := Expression.compileList strict parts table
    (result.map Formula.disj, table)
  | .unparsed text reason, table =>
    (if strict then .error ⟨text, reason⟩ else .ok (.const true), table)

/-- Compiles expressions from left to right, up to the first error. -/
def Expression.compileList (strict : Bool) : List Expression → Compile (List Formula)
  | [], table => (.ok [], table)
  | e :: rest, table =>
    match Expression.compile strict e table with
    | (.error err, table) => (.error err, table)
    | (.ok f, table) =>
      let (result, table) := Expression.compileList strict rest table
      (result.map (f :: ·), table)

end

def FieldCondition.compileList : List FieldCondition → SymbolTable → List Formula × SymbolTable
  | [], table => ([], table)
  | c :: rest, table =>
    let (x, table) := table.intern c.variableName
    let (fs, table) := FieldCondition.compileList rest table
    (.compare x c.comparator c.code :: fs, table)

/-- Compiles a guard. -/
def Guard.compile (mode : CompileMode) (g : Guard) : Compile Formula := fun table =>
  if g.isVacuous then (.ok (.const true), table)
  else match g with
    | .alwaysTrue => (.ok (.const true), table)
    | .protocol conditions =>
      let (fs, table) := FieldCondition.compileList conditions table
      (.ok (Formula.conj fs), table)
    | .manual text => (Expression.parse mode.precedence text).compile mode.strict table

/-- Compiles guards from left to right, up to the first error. -/
def Guard.compileList (mode : CompileMode) : List Guard → Compile (List Formula)
  | [], table => (.ok [], table)
  | g :: rest, table =>
    match g.compile mode table with
    | (.error err, table) => (.error err, table)
    | (.ok f, table) =>
      let (result, table) := Guard.compileList mode rest table
      (result.map (f :: ·), table)

/-- Compiles a guard on its own, text that could not be read counting as
true. -/
def Guard.compileAlone (g : Guard) : Formula × SymbolTable :=
  match g.compile .default .empty with
  | (.ok f, table) => (f, table)
  | (.error _, table) => (.const true, table)

end TransitionGuards
