import TransitionGuards.Proofs.Distinct
import TransitionGuards.SymbolTable

/-
  Symbol tables as names are registered.

  A name and its variable determine each other (`get?_eq_some_iff`,
  `name?_inj`). Registering a name keeps every variable that was there
  (`extends_intern`), so a formula means the same under any later table.
  Registering several names adds the new ones among them, in order
  (`names_register`).
-/

namespace TransitionGuards

namespace SymbolTable
variable {table table' table'' : SymbolTable} {x y : VarId} {name : String}

def Knows (table : SymbolTable) (x : VarId) : Prop := x.index < table.names.length

/-- Whether `table'` is `table` with more names at the end. -/
def Extends (table' table : SymbolTable) : Prop := table.names <+: table'.names

theorem knows_iff : table.Knows x ↔ ∃ name, table.name? x = some name := by
  rw [Knows, name?, ← Option.isSome_iff_exists, isSome_getElem?]

theorem name?_inj (hx : table.name? x = some name) (hy : table.name? y = some name) : x = y := by
  have known : table.Knows x := knows_iff.2 ⟨name, hx⟩
  have := (List.getElem?_inj known table.distinct).1 (hx.trans hy.symm)
  cases x
  cases y
  exact congrArg VarId.mk this

theorem get?_eq_some_iff : table.get? name = some x ↔ table.name? x = some name := by
  rw [get?, Option.map_eq_some_iff, name?, ← idxOf?_eq_some_iff_getElem? table.distinct]
  constructor
  · rintro ⟨i, found, rfl⟩
    exact found
  · intro found
    exact ⟨x.index, found, rfl⟩

theorem Extends.refl (table : SymbolTable) : table.Extends table := List.prefix_rfl

theorem Extends.trans (h₂ : table''.Extends table') (h₁ : table'.Extends table) : table''.Extends table :=
  List.IsPrefix.trans h₁ h₂

theorem Extends.name? (h : table'.Extends table) (hx : table.name? x = some name) :
    table'.name? x = some name := by
  obtain ⟨more, hm⟩ := h
  have known : table.Knows x := knows_iff.2 ⟨name, hx⟩
  rw [SymbolTable.name?, ← hm, List.getElem?_append_left known]
  exact hx

theorem Extends.knows (h : table'.Extends table) (hx : table.Knows x) : table'.Knows x := by
  obtain ⟨name, hn⟩ := knows_iff.1 hx
  exact knows_iff.2 ⟨name, h.name? hn⟩

theorem intern_cases (table : SymbolTable) (name : String) :
    (∃ x, table.get? name = some x ∧ table.intern name = (x, table)) ∨
    (∃ new : name ∉ table.names, table.intern name = (⟨table.names.length⟩, table.add name new)) := by
  unfold intern
  split
  · next x h => exact .inl ⟨x, h, rfl⟩
  · next h => exact .inr ⟨notMem_of_get? h, rfl⟩

theorem extends_intern (table : SymbolTable) (name : String) : (table.intern name).2.Extends table := by
  rcases table.intern_cases name with ⟨x, _, h⟩ | ⟨new, h⟩
  · rw [h]; exact .refl table
  · rw [h]; exact List.prefix_append ..

theorem name?_intern (table : SymbolTable) (name : String) :
    (table.intern name).2.name? (table.intern name).1 = some name := by
  rcases table.intern_cases name with ⟨x, hx, h⟩ | ⟨new, h⟩
  · rw [h]; exact get?_eq_some_iff.1 hx
  · rw [h]; exact List.getElem?_concat_length

/-! ## Several names -/

/-- The table with the names registered one after another. -/
def register (table : SymbolTable) (names : List String) : SymbolTable :=
  names.foldl (fun table name => (table.intern name).2) table

theorem register_append (table : SymbolTable) (names names' : List String) :
    table.register (names ++ names') = (table.register names).register names' := List.foldl_append

theorem extends_register (table : SymbolTable) : ∀ names : List String, (table.register names).Extends table
  | [] => .refl table
  | name :: rest => ((table.intern name).2.extends_register rest).trans (table.extends_intern name)

theorem exists_of_mem_names (h : name ∈ table.names) : ∃ x, table.name? x = some name := by
  obtain ⟨i, hi⟩ := List.mem_iff_getElem?.1 h
  exact ⟨⟨i⟩, hi⟩

/-- Those of the names that the table does not have, each where it first
occurs. -/
def newNames (table : SymbolTable) (names : List String) : List String :=
  (names.filter (· ∉ table.names)).eraseDups

theorem names_register (table : SymbolTable) (names : List String) :
    (table.register names).names = table.names ++ table.newNames names := by
  induction names generalizing table with
  | nil => exact (List.append_nil _).symm
  | cons name rest ih =>
    show ((table.intern name).2.register rest).names = _
    rw [ih]
    -- a known name is passed over in both lists, a new one goes in front of the rest
    rcases table.intern_cases name with ⟨x, known, h⟩ | ⟨new, h⟩
    · have old : name ∈ table.names := List.mem_of_getElem? (get?_eq_some_iff.1 known)
      rw [h, newNames, newNames, List.filter_cons_of_neg (by simpa using old)]
    · rw [h, newNames, newNames, List.filter_cons_of_pos (by simpa using new), List.eraseDups_cons,
        List.filter_filter]
      show table.names ++ [name] ++ _ = _
      rw [List.append_assoc, List.singleton_append]
      congr 3
      apply List.filter_congr
      intro other _
      by_cases same : other = name
      · simp [add, same]
      · simp [add, same]

theorem mem_names_register (table : SymbolTable) {names : List String} (h : name ∈ names) :
    name ∈ (table.register names).names := by
  rw [names_register, List.mem_append]
  by_cases old : name ∈ table.names
  · exact .inl old
  · exact .inr (List.mem_eraseDups.2 (List.mem_filter.2 ⟨h, by simpa using old⟩))

/-! ## The names of formulas -/

/-- The names of the variables of the formulas. -/
def Names (table : SymbolTable) (fs : List Formula) (name : String) : Prop :=
  ∃ f ∈ fs, ∃ a ∈ f.atoms, table.name? a.var = some name

theorem names_append {fs gs : List Formula} :
    table.Names (fs ++ gs) name ↔ table.Names fs name ∨ table.Names gs name := by
  simp only [Names, List.mem_append, or_and_right, exists_or]

theorem names_congr {fs gs : List Formula} (h : fs.flatMap Formula.atoms = gs.flatMap Formula.atoms) :
    table.Names fs name ↔ table.Names gs name := by
  have flat (hs : List Formula) :
      table.Names hs name ↔ ∃ a ∈ hs.flatMap Formula.atoms, table.name? a.var = some name := by
    constructor
    · intro h
      obtain ⟨f, hf, a, ha, hn⟩ := h
      exact ⟨a, List.mem_flatMap.2 ⟨f, hf, ha⟩, hn⟩
    · intro h
      obtain ⟨a, ha, hn⟩ := h
      obtain ⟨f, hf, ha⟩ := List.mem_flatMap.1 ha
      exact ⟨f, hf, a, ha, hn⟩
  rw [flat, flat, h]

/-- Names registered later are not those of earlier formulas. -/
theorem Extends.names_iff {fs : List Formula} (h : table'.Extends table)
    (known : ∀ f ∈ fs, ∀ a ∈ f.atoms, table.Knows a.var) : table'.Names fs name ↔ table.Names fs name := by
  constructor
  · intro h
    obtain ⟨f, hf, a, ha, hn⟩ := h
    -- the variable had a name before, and keeps it
    obtain ⟨n, hn'⟩ := knows_iff.1 (known f hf a ha)
    rw [h.name? hn'] at hn
    exact ⟨f, hf, a, ha, hn'.trans hn⟩
  · intro h
    obtain ⟨f, hf, a, ha, hn⟩ := h
    exact ⟨f, hf, a, ha, h.name? hn⟩

end SymbolTable

end TransitionGuards
