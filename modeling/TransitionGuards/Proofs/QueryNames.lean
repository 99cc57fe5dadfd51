import TransitionGuards.Proofs.Groups
import TransitionGuards.Machine.Report
import TransitionGuards.Proofs.WrittenNames

/-
  The names in the queries of an analysis.

  `Asks p run` says that a run only adds to the list of what was asked, and only
  queries that `p` holds of, from any list and for any answers, which may depend on
  all that was asked before. It is kept by `pure` and `bind`, so it follows the text
  of a program. An analysis asks about two guards or about a set of guards, and the
  atoms of what it asks are in scope of the comparisons in them and in the
  declarations (`Analyzer.asks_inScope`).
-/

namespace TransitionGuards

/-- The backend that notes what it is asked. Its answer may depend on what it was
asked before. -/
def Backend.recording (answer : List Query → Query → Except SolverError Outcome) : Backend (StateM (List Query)) where
  name := "recording"
  check table assertions limits := fun asked =>
    (answer asked ⟨table, assertions, limits⟩, asked ++ [⟨table, assertions, limits⟩])

/-- Whether the run asks only such queries, whatever was asked before. -/
def Asks {α : Type} (p : Query → Prop) (run : StateM (List Query) α) : Prop :=
  ∀ asked, ∃ queries, (run.run asked).2 = asked ++ queries ∧ ∀ q ∈ queries, p q

namespace Asks
variable {α β : Type} {p p' : Query → Prop} {run : StateM (List Query) α}

theorem done (a : α) : Asks p (pure a : StateM (List Query) α) :=
  fun asked => ⟨[], (List.append_nil asked).symm, nofun⟩

theorem andThen {next : α → StateM (List Query) β} (first : Asks p run) (more : ∀ a, Asks p (next a)) :
    Asks p (run >>= next) := by
  intro asked
  obtain ⟨queries, left, each⟩ := first asked
  obtain ⟨queries', left', each'⟩ := more (run.run asked).1 (asked ++ queries)
  refine ⟨queries ++ queries', ?_, fun q hq => ?_⟩
  · rw [StateT.run_bind, ← List.append_assoc, ← left', ← left]
    rfl
  · exact (List.mem_append.1 hq).elim (each q) (each' q)

theorem mono (h : Asks p run) (weaker : ∀ q, p q → p' q) : Asks p' run := by
  intro asked
  obtain ⟨queries, left, each⟩ := h asked
  exact ⟨queries, left, fun q hq => weaker q (each q hq)⟩

theorem check (answer : List Query → Query → Except SolverError Outcome) {table : SymbolTable}
    {assertions : List Formula} {limits : Limits} (h : p ⟨table, assertions, limits⟩) :
    Asks p ((Backend.recording answer).check table assertions limits) :=
  fun _ => ⟨[⟨table, assertions, limits⟩], rfl, by simpa using h⟩

end Asks

/-! ## Queries in scope -/

/-- Whether the atoms of the query are in scope of the comparisons, and the
variables that a witness may name have names. -/
structure Query.InScope (q : Query) (cs : List Comparison) : Prop where
  atoms : q.table.InScope (q.assertions.flatMap Formula.atoms) cs
  named : ∀ e ∈ (Formula.conj q.assertions).candidates, ∃ name, q.table.name? e.1 = some name

/-- The comparisons in the declarations, and then those in the guards. -/
def comparisonsOf (precedence : Precedence) (declared : List Variable) (guards : List Guard) : List Comparison :=
  declared.flatMap Variable.written ++ guards.flatMap fun g => g.comparisons precedence

theorem comparisonsOf_sublist (precedence : Precedence) {declared declared' : List Variable} {guards guards' : List Guard}
    (moreDeclared : declared.Sublist declared') (moreGuards : guards.Sublist guards') :
    (comparisonsOf precedence declared guards).Sublist (comparisonsOf precedence declared' guards') :=
  (moreDeclared.flatMap _).append (moreGuards.flatMap _)

namespace Query
variable {q : Query} {cs cs' : List Comparison} {mode : CompileMode} {limits : Limits}

theorem inScope_of_spells (h : q.table.Spells (q.assertions.flatMap Formula.atoms) cs) : q.InScope cs where
  atoms := h.inScope
  named e he := by
    -- a candidate is of a variable in the assertions, and these have names
    obtain ⟨a, ha, same⟩ := (Formula.mem_candidates.1 he).1
    obtain ⟨f, hf, ha⟩ := Formula.mem_atoms_conj ha
    obtain ⟨c, _, written⟩ := h.exists_written (List.mem_flatMap.2 ⟨f, hf, ha⟩)
    exact ⟨c.name, same ▸ (SymbolTable.written?_eq_some_iff.1 written).1⟩

theorem InScope.mono (h : q.InScope cs) (more : cs.Sublist cs') : q.InScope cs' :=
  inScope_of_spells (h.atoms.spells.mono more)

theorem ForPair.inScope {g₁ g₂ : Guard} (h : q.ForPair mode limits g₁ g₂) :
    q.InScope (comparisonsOf mode.precedence [] [g₁, g₂]) := by
  obtain ⟨compiled⟩ := h
  exact inScope_of_spells (.flatMap (Guard.compileList_spells compiled))

/-- A query about a set of guards is in scope of the comparisons in the declarations
and in the guards. -/
theorem ForGap.inScope {guards : List Guard} {declared : List Variable} (h : q.ForGap mode limits guards declared) :
    q.InScope (comparisonsOf mode.precedence declared guards) := by
  obtain @⟨fs, domains, table, compiled, _, made⟩ := h
  apply inScope_of_spells
  show SymbolTable.Spells _ ((domains ++ [(Formula.disj fs).neg]).flatMap Formula.atoms) _
  rw [List.flatMap_append, List.flatMap_singleton, Formula.atoms_neg]
  -- the names of the guards are there before those of the declarations
  have guardsSpell := SymbolTable.Spells.disj (Guard.compileList_spells compiled)
  exact (SymbolTable.Spells.flatMap made.spells).append (guardsSpell.later (table.extends_register _))

end Query

/-! ## The scans of a machine -/

namespace Checks
variable {p : Query → Prop} {c : Checks (StateM (List Query))}

theorem asks_overlapWith {e : Edge} : ∀ {others : List Edge},
    (∀ other ∈ others, Asks p (c.pair e.guard other.guard)) → Asks p (c.overlapWith e others)
  | [], _ => .done none
  | _ :: _, each => by
    obtain ⟨first, others⟩ := List.forall_mem_cons.1 each
    refine first.andThen fun verdict => ?_
    split
    · exact .done _
    · exact asks_overlapWith others

theorem asks_firstOverlap : ∀ {edges : List Edge},
    edges.Pairwise (fun e other => Asks p (c.pair e.guard other.guard)) → Asks p (c.firstOverlap edges)
  | [], _ => .done none
  | _ :: _, each => by
    obtain ⟨first, others⟩ := List.pairwise_cons.1 each
    refine (asks_overlapWith first).andThen fun overlap => ?_
    split
    · exact .done _
    · exact asks_firstOverlap others

theorem asks_eachGroup {ι : Type} {check : Group → StateM (List Query) (Option ι)} : ∀ {gs : List Group},
    (∀ g ∈ gs, Asks p (check g)) → Asks p (eachGroup check gs)
  | [], _ => .done []
  | _ :: _, each => by
    obtain ⟨first, others⟩ := List.forall_mem_cons.1 each
    exact first.andThen fun issue => (asks_eachGroup others).andThen fun issues => .done _

variable {edges : List Edge}

theorem edges_sublist_of_mem_groups {g : Group} (hg : g ∈ groups edges) : g.edges.Sublist edges := by
  obtain ⟨e, _, rfl⟩ := mem_groups.1 hg
  exact List.filter_sublist

theorem asks_determinism (pairs : ∀ e₁ e₂, [e₁, e₂].Sublist edges → Asks p (c.pair e₁.guard e₂.guard)) :
    Asks p (c.determinism edges) := by
  refine asks_eachGroup fun g hg => Asks.andThen ?_ fun overlap => .done _
  apply asks_firstOverlap
  apply List.pairwise_of_forall_sublist
  intro e₁ e₂ both
  exact pairs e₁ e₂ (both.trans (edges_sublist_of_mem_groups hg))

theorem asks_completeness {declared : List Variable}
    (sets : ∀ part : List Edge, part.Sublist edges → Asks p (c.complete (part.map (·.guard)) declared)) :
    Asks p (c.completeness edges declared) := by
  refine asks_eachGroup fun g hg => Asks.andThen ?_ fun verdict => .done _
  exact sets g.edges (edges_sublist_of_mem_groups hg)

end Checks

/-! ## The queries of the analyzer -/

namespace Analyzer

/-- Whether all queries of the analyzer are in scope of the guards and the
declarations that it is asked about. -/
structure AsksInScope (a : Analyzer (StateM (List Query))) : Prop where
  tryPair : ∀ g₁ g₂, Asks (·.InScope (comparisonsOf a.config.precedence [] [g₁, g₂])) (a.tryCheckPair g₁ g₂)
  pair : ∀ g₁ g₂, Asks (·.InScope (comparisonsOf a.config.precedence [] [g₁, g₂])) (a.checkPair g₁ g₂)
  tryComplete : ∀ guards declared,
    Asks (·.InScope (comparisonsOf a.config.precedence declared guards)) (a.tryCheckComplete guards declared)
  complete : ∀ guards declared,
    Asks (·.InScope (comparisonsOf a.config.precedence declared guards)) (a.checkComplete guards declared)
  determinism : ∀ edges : List Edge,
    Asks (·.InScope (comparisonsOf a.config.precedence [] (edges.map (·.guard)))) (a.checkDeterminism edges)
  completeness : ∀ (edges : List Edge) declared,
    Asks (·.InScope (comparisonsOf a.config.precedence declared (edges.map (·.guard)))) (a.checkCompleteness edges declared)
  machine : ∀ machine : Machine,
    Asks (·.InScope (comparisonsOf a.config.precedence machine.declared (machine.edges.map (·.guard)))) (a.analyze machine)

section
variable {config : Config} {answer : List Query → Query → Except SolverError Outcome}

/-- The analyzer whose backend notes what it is asked. -/
def recording (config : Config) (answer : List Query → Query → Except SolverError Outcome) :
    Analyzer (StateM (List Query)) := ⟨config, .recording answer⟩

theorem asks_tryCheckPair (g₁ g₂ : Guard) :
    Asks (·.ForPair (recording config answer).mode config.limits g₁ g₂) ((recording config answer).tryCheckPair g₁ g₂) := by
  unfold tryCheckPair
  split
  · exact .done _
  · next fs table compiled =>
    refine (Asks.check answer (.of_compiled compiled)).andThen fun result => ?_
    split <;> exact .done _

theorem asks_tryCheckComplete (guards : List Guard) (declared : List Variable) :
    Asks (·.ForGap (recording config answer).mode config.limits guards declared)
      ((recording config answer).tryCheckComplete guards declared) := by
  unfold tryCheckComplete
  split
  · exact .done _
  · next fs table compiled =>
    split
    · exact .done _
    · next other =>
      have proper := not_all_isTrue_iff.1 other
      split
      · exact .done _
      · next domains table' constraints =>
        obtain ⟨rfl, made⟩ := domainConstraints_made constraints
        refine (Asks.check answer (.asks compiled proper made)).andThen fun result => ?_
        split <;> exact .done _

theorem asks_checkPair (g₁ g₂ : Guard) :
    Asks (·.ForPair (recording config answer).mode config.limits g₁ g₂) ((recording config answer).checkPair g₁ g₂) := by
  refine (asks_tryCheckPair g₁ g₂).andThen fun result => ?_
  split <;> exact .done _

theorem asks_checkComplete (guards : List Guard) (declared : List Variable) :
    Asks (·.ForGap (recording config answer).mode config.limits guards declared)
      ((recording config answer).checkComplete guards declared) := by
  refine (asks_tryCheckComplete guards declared).andThen fun result => ?_
  split <;> exact .done _

theorem asks_checkDeterminism (edges : List Edge) :
    Asks (·.InScope (comparisonsOf config.precedence [] (edges.map (·.guard))))
      ((recording config answer).checkDeterminism edges) := by
  apply Checks.asks_determinism
  intro e₁ e₂ both
  refine (asks_checkPair e₁.guard e₂.guard).mono fun q asks => asks.inScope.mono ?_
  exact comparisonsOf_sublist _ (List.Sublist.refl []) (both.map Edge.guard)

theorem asks_checkCompleteness (edges : List Edge) (declared : List Variable) :
    Asks (·.InScope (comparisonsOf config.precedence declared (edges.map (·.guard))))
      ((recording config answer).checkCompleteness edges declared) := by
  apply Checks.asks_completeness
  intro part sub
  refine (asks_checkComplete (part.map (·.guard)) declared).mono fun q asks => asks.inScope.mono ?_
  exact comparisonsOf_sublist _ (List.Sublist.refl declared) (sub.map Edge.guard)

theorem asks_inScope (config : Config) (answer : List Query → Query → Except SolverError Outcome) :
    AsksInScope (recording config answer) where
  tryPair g₁ g₂ := (asks_tryCheckPair g₁ g₂).mono fun _ asks => asks.inScope
  pair g₁ g₂ := (asks_checkPair g₁ g₂).mono fun _ asks => asks.inScope
  tryComplete guards declared := (asks_tryCheckComplete guards declared).mono fun _ asks => asks.inScope
  complete guards declared := (asks_checkComplete guards declared).mono fun _ asks => asks.inScope
  determinism := asks_checkDeterminism
  completeness := asks_checkCompleteness
  machine machine := by
    have pairs : Asks (·.InScope (comparisonsOf config.precedence machine.declared (machine.edges.map (·.guard))))
        ((recording config answer).checkDeterminism machine.edges) := by
      refine (asks_checkDeterminism machine.edges).mono fun q inScope => inScope.mono ?_
      exact comparisonsOf_sublist _ machine.declared.nil_sublist (List.Sublist.refl _)
    exact pairs.andThen fun _ => (asks_checkCompleteness machine.edges machine.declared).andThen fun _ => .done _

end

end Analyzer

end TransitionGuards
