import TransitionGuards.Proofs.LimitedRuns
import TransitionGuards.Proofs.Success

/-
  The search on a single assignment, changed in place.

  `search` returns its choices. `solve` has one assignment for the whole run: a
  choice is entered before the rest of the formula is searched, removed when that
  fails, and left where it is when it succeeds or the search is given up. Every call
  is recorded as it ends, with the assignment it began with and the one it left.

  Both decide alike, decision by decision (`follows_solve`): where `search` finds
  nothing, `solve` leaves the assignment as it was, and where it finds choices, they
  are what `solve` has entered. So the decision procedure answers what is read off a
  run of `solve` (`decideAll_eq_answer`).
-/

namespace TransitionGuards

/-- A call of the search that has come to an end. -/
structure Call where
  order : List (VarId × List Int64)
  formula : Formula
  entry : Choices
  result : Except SolverError Bool
  exit : Choices

/-- What changes while a search runs. -/
structure Progress where
  decisions : Nat
  assignment : Choices
  /-- The calls that have ended, the last one first. -/
  calls : List Call

/-- Parts of a search. What has changed stays so when the search is given up. -/
abbrev Backtracking := ExceptT SolverError (StateM Progress)

namespace Backtracking

/-- Counts one more decision. -/
def decision (limits : Limits) (clock : Clock) : Backtracking Unit := fun p =>
  ((limits.tick clock p.decisions).map fun _ => (), { p with decisions := p.decisions + 1 })

/-- Tries the values for `x` one after another, each entered into the assignment
while `explore` goes on with it. -/
def tryEach (limits : Limits) (clock : Clock) (x : VarId) (f : Formula) (explore : Formula → Backtracking Bool) :
    List Int64 → Backtracking Bool
  | [] => pure false
  | v :: rest => do
    decision limits clock
    let reduced := f.assign x v
    if reduced.isFalse then tryEach limits clock x f explore rest
    else
      modify fun p => { p with assignment := p.assignment.insert x v }
      if ← explore reduced then pure true
      else
        modify fun p => { p with assignment := p.assignment.erase x }
        tryEach limits clock x f explore rest

/-- The call, recorded as it ends. -/
def recorded (order : List (VarId × List Int64)) (f : Formula) (call : Backtracking Bool) :
    Backtracking Bool := fun p =>
  let (result, q) := call.run p
  (result, { q with calls := ⟨order, f, p.assignment, result, q.assignment⟩ :: q.calls })

/-- Looks for values of the variables in `order` that make the formula true. -/
def solve (limits : Limits) (clock : Clock) (order : List (VarId × List Int64)) (f : Formula) : Backtracking Bool :=
  recorded order f <|
    match order, f with
    | _, .const b => pure b
    | [], _ => pure false
    | (x, values) :: rest, f =>
      if f.mentions x then tryEach limits clock x f (solve limits clock rest) values
      else solve limits clock rest f

def start : Progress := ⟨0, ∅, []⟩

variable {limits : Limits} {clock : Clock} {x : VarId} {f : Formula} {rest order : List (VarId × List Int64)}
variable {explore : Formula → Backtracking Bool} {p : Progress}

theorem run_modify_bind {α : Type} (change : Progress → Progress) (next : Backtracking α) (p : Progress) :
    (do modify change; next : Backtracking α).run p = next.run (change p) := rfl

theorem run_decision (limits : Limits) (clock : Clock) (p : Progress) : (decision limits clock).run p =
    ((limits.tick clock p.decisions).map fun _ => (), { p with decisions := p.decisions + 1 }) := rfl

theorem tryEach_cons (v : Int64) (values : List Int64) :
    (tryEach limits clock x f explore (v :: values)).run p =
      match limits.tick clock p.decisions with
      | .error e => (.error e, { p with decisions := p.decisions + 1 })
      | .ok _ =>
        if (f.assign x v).isFalse then
          (tryEach limits clock x f explore values).run { p with decisions := p.decisions + 1 }
        else
          match (explore (f.assign x v)).run ⟨p.decisions + 1, p.assignment.insert x v, p.calls⟩ with
          | (.error e, q) => (.error e, q)
          | (.ok true, q) => (.ok true, q)
          | (.ok false, q) =>
            (tryEach limits clock x f explore values).run { q with assignment := q.assignment.erase x } := by
  rw [tryEach, run_bind_state, run_decision]
  cases limits.tick clock p.decisions with
  | error e => rfl
  | ok n =>
    dsimp only [Except.map]
    split
    · rfl
    · rw [run_modify_bind, run_bind_state]
      generalize (explore (f.assign x v)).run ⟨p.decisions + 1, p.assignment.insert x v, p.calls⟩ = ended
      rcases ended with ⟨_ | _ | _, q⟩ <;> rfl

theorem solve_const (limits : Limits) (clock : Clock) (order : List (VarId × List Int64)) (b : Bool) :
    solve limits clock order (.const b) = recorded order (.const b) (pure b) := by
  cases order <;> rw [solve]

theorem solve_nil (undecided : ∀ b, f ≠ .const b) : solve limits clock [] f = recorded [] f (pure false) := by
  rw [solve]
  exact undecided

theorem solve_cons (undecided : ∀ b, f ≠ .const b) (values : List Int64) :
    solve limits clock ((x, values) :: rest) f = recorded ((x, values) :: rest) f
      (if f.mentions x then tryEach limits clock x f (solve limits clock rest) values
      else solve limits clock rest f) := by
  rw [solve]
  exact undecided

/-! ## Both searches decide alike -/

/-- How a run on the assignment ends, given what the search that returns its choices
has found. -/
inductive Follows (assigned : Choices) : Except SolverError Finding → Except SolverError Bool × Progress → Prop
  | givenUp (e : SolverError) (q : Progress) : Follows assigned (.error e) (.error e, q)
  | refuted {n : Nat} {q : Progress} (kept : q.assignment = assigned) (count : q.decisions = n) :
      Follows assigned (.ok ⟨none, n⟩) (.ok false, q)
  | found {choices : Assignment} {n : Nat} {q : Progress} (entered : q.assignment = Choices.enter assigned choices)
      (count : q.decisions = n) : Follows assigned (.ok ⟨some choices, n⟩) (.ok true, q)

variable {assigned : Choices}

theorem run_recorded (call : Backtracking Bool) (p : Progress) : (recorded order f call).run p =
    ((call.run p).1, { (call.run p).2 with
      calls := ⟨order, f, p.assignment, (call.run p).1, (call.run p).2.assignment⟩ :: (call.run p).2.calls }) := rfl

theorem Follows.recorded {call : Backtracking Bool} {found : Except SolverError Finding}
    (h : Follows assigned found (call.run p)) : Follows assigned found ((recorded order f call).run p) := by
  rw [run_recorded]
  generalize call.run p = ended at h
  cases h with
  | givenUp e q => exact .givenUp e _
  | refuted kept count => exact .refuted kept count
  | found entered count => exact .found entered count

theorem follows_const (b : Bool) (p : Progress) :
    Follows p.assignment (search limits clock order (.const b) p.decisions)
      ((recorded order (.const b) (pure b)).run p) := by
  rw [search]
  cases b with
  | false => exact .recorded (.refuted rfl rfl)
  | true =>
    have found : Follows p.assignment (.ok ⟨some [], p.decisions⟩) (.ok true, p) := .found rfl rfl
    exact found.recorded

theorem unassigned_insert (different : x ∉ rest.map (·.1)) (v : Int64)
    (unassigned : ∀ e ∈ rest, assigned[e.1]? = none) : ∀ e ∈ rest, (assigned.insert x v)[e.1]? = none := by
  intro e he
  have other : x ≠ e.1 := fun hx => different (List.mem_map.2 ⟨e, he, hx.symm⟩)
  rw [Choices.getElem?_insert, if_neg other, unassigned e he]

/-- Trying values leaves the assignment as it was, or with the choices that follow. -/
theorem follows_tryEach {look : Formula → Nat → Except SolverError Finding} (new : assigned[x]? = none)
    (explored : ∀ v g q, q.assignment = assigned.insert x v →
      Follows (assigned.insert x v) (look g q.decisions) ((explore g).run q)) :
    ∀ (values : List Int64) (p : Progress), p.assignment = assigned →
      Follows assigned (tryValues limits clock x f look values p.decisions)
        ((tryEach limits clock x f explore values).run p)
  | [], p, kept => .refuted kept rfl
  | v :: values, p, kept => by
    have later (q : Progress) := follows_tryEach new explored values q
    rw [tryEach_cons, tryValues_cons]
    cases tick : limits.tick clock p.decisions with
    | error e => exact .givenUp e _
    | ok n =>
      obtain rfl := tick_eq_ok tick
      have branch := explored v (f.assign x v) ⟨p.decisions + 1, p.assignment.insert x v, p.calls⟩ (by rw [kept])
      show Follows assigned (if (f.assign x v).isFalse then _ else _) (if (f.assign x v).isFalse then _ else _)
      split
      · exact later { p with decisions := p.decisions + 1 } kept
      · show Follows assigned (look (f.assign x v) (p.decisions + 1) >>= _) _
        generalize look (f.assign x v) (p.decisions + 1) = found at branch
        generalize (explore (f.assign x v)).run ⟨p.decisions + 1, p.assignment.insert x v, p.calls⟩ = ended at branch
        cases branch with
        | givenUp e q => exact .givenUp e q
        | @refuted n q same count =>
          -- the branch gave back what it was entered with, so removing the choice restores it
          subst count
          refine later { q with assignment := q.assignment.erase x } ?_
          show q.assignment.erase x = assigned
          rw [same, Choices.erase_insert new]
        | found entered count => exact .found entered count

/-- The search that returns its choices, and the one that enters them. -/
theorem follows_solve (limits : Limits) (clock : Clock) {order : List (VarId × List Int64)}
    (distinct : (order.map (·.1)).Nodup) : ∀ (f : Formula) (p : Progress), (∀ e ∈ order, p.assignment[e.1]? = none) →
      Follows p.assignment (search limits clock order f p.decisions) ((solve limits clock order f).run p) := by
  induction order with
  | nil =>
    intro f p _
    by_cases hf : ∃ b, f = .const b
    · obtain ⟨b, rfl⟩ := hf
      rw [solve_const]
      exact follows_const b p
    · have undecided : ∀ b, f ≠ .const b := fun b hb => hf ⟨b, hb⟩
      rw [search_nil undecided, solve_nil undecided]
      exact .recorded (.refuted rfl rfl)
  | cons e rest ih =>
    obtain ⟨x, values⟩ := e
    obtain ⟨different, distinct⟩ := List.nodup_cons.1 distinct
    intro f p unassigned
    by_cases hf : ∃ b, f = .const b
    · obtain ⟨b, rfl⟩ := hf
      rw [solve_const]
      exact follows_const b p
    · have undecided : ∀ b, f ≠ .const b := fun b hb => hf ⟨b, hb⟩
      obtain ⟨new, unassigned⟩ := List.forall_mem_cons.1 unassigned
      rw [search_cons undecided, solve_cons undecided]
      apply Follows.recorded
      -- both tell by the formula whether the variable still matters
      split
      · refine follows_tryEach new (fun v g q entered => ?_) values p rfl
        rw [← entered]
        exact ih distinct g q (entered ▸ unassigned_insert different v unassigned)
      · exact ih distinct f p unassigned

/-! ## The decision procedure -/

/-- The answer that a run for the formula has come to. -/
def answer (table : SymbolTable) (f : Formula) : Except SolverError Bool × Progress → Except SolverError Outcome
  | (.error e, _) => .error e
  | (.ok false, _) => .ok .unsat
  | (.ok true, p) =>
    .ok (.sat (Witness.ofList (f.candidates.map fun (x, values) =>
      ((table.name? x).getD "", p.assignment[x]?.getD (values.headD 0)))))

/-- The run of the search for a formula. -/
def runFor (limits : Limits) (clock : Clock) (f : Formula) : Except SolverError Bool × Progress :=
  (solve limits clock (searchOrder f.candidates) f).run start

/-- The procedure answers what is read off the run. -/
theorem decideAll_eq_answer (clock : Clock) (table : SymbolTable) (assertions : List Formula) (limits : Limits) :
    decideAll clock table assertions limits =
      answer table (Formula.conj assertions) (runFor limits clock (Formula.conj assertions)) := by
  generalize hf : Formula.conj assertions = f
  have follows := follows_solve limits clock f.nodup_searchOrder f start fun _ _ => rfl
  rw [decideAll, hf, runFor]
  change Follows ∅ (search limits clock (searchOrder f.candidates) f 0) _ at follows
  generalize hs : search limits clock (searchOrder f.candidates) f 0 = found at follows
  generalize (solve limits clock (searchOrder f.candidates) f).run start = ended at follows
  cases follows with
  | givenUp e q => rfl
  | refuted _ _ => rfl
  | @found choices n q entered _ =>
    have distinct : (choices.map (·.1)).Nodup := ((finds_of_search hs).sublist choices rfl).nodup f.nodup_searchOrder
    -- no choice was there before, so the map has just those of the search
    have same (x : VarId) : q.assignment[x]? = choices.get? x := by
      rw [entered, Choices.getElem?_enter distinct]
      exact Option.or_none
    simp only [answer, witnessOf, same]

end Backtracking

end TransitionGuards
