import TransitionGuards.Formula

/-
  The names of the variables of one query. A name is registered on first use
  and keeps its place from then on, so that two guards which use one name
  speak about one variable.
-/

namespace TransitionGuards

/-- Variable names in the order of their registration, each of them once. -/
structure SymbolTable where
  names : List String
  distinct : names.Nodup
  deriving DecidableEq, Repr

namespace SymbolTable

def empty : SymbolTable := ⟨[], List.nodup_nil⟩

instance : Inhabited SymbolTable := ⟨empty⟩

def get? (table : SymbolTable) (name : String) : Option VarId :=
  (table.names.idxOf? name).map VarId.mk

theorem notMem_of_get? {table : SymbolTable} {name : String} (h : table.get? name = none) :
    name ∉ table.names := by
  rw [get?, Option.map_eq_none_iff] at h
  exact List.idxOf?_eq_none_iff.1 h

/-- The table with a new name at the end. -/
def add (table : SymbolTable) (name : String) (new : name ∉ table.names) : SymbolTable :=
  ⟨table.names ++ [name], List.nodup_append.2 ⟨table.distinct, by simp, fun a ha b hb e => by
    rw [List.mem_singleton.1 hb] at e
    exact new (e ▸ ha)⟩⟩

/-- The variable under the name, registered at the end if it is new. -/
def intern (table : SymbolTable) (name : String) : VarId × SymbolTable :=
  match h : table.get? name with
  | some x => (x, table)
  | none => (⟨table.names.length⟩, table.add name (notMem_of_get? h))

def name? (table : SymbolTable) (x : VarId) : Option String := table.names[x.index]?

def size (table : SymbolTable) : Nat := table.names.length

end SymbolTable

end TransitionGuards
