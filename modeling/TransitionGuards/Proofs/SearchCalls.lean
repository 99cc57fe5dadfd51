import TransitionGuards.Proofs.Backtracking
import TransitionGuards.Proofs.Substitution

/-
  What every call of a search finds and leaves.

  A call `Begins` with the formula that is left of the original one after the
  choices in the assignment. Its order lists the variables that this formula
  mentions, none of them assigned. Entering a choice and passing over a variable lead
  to calls of that kind again, and a branch that fails gives the assignment back, so
  the next value is tried as the first one was (`reports_tryEach`). Hence no call
  ever runs out of variables before the formula is decided, and the choices of a
  branch that failed are in no assignment later on (`decideAll_calls`).
-/

namespace TransitionGuards

/-! ## What is found -/

namespace Finds
variable {order : List (VarId × List Int64)} {f : Formula} {found : Option Assignment}

theorem after_eq_true (h : Finds order f found) : ∀ choices, found = some choices → f.after choices = .const true := by
  induction h with
  | yes order =>
    rintro _ ⟨⟩
    rfl
  | no order => nofun
  | exhausted _ => nofun
  | skip _ _ ih => exact ih
  | choose _ _ _ _ _ ih =>
    rintro _ ⟨⟩
    exact ih _ rfl
  | refute _ _ _ => nofun

theorem listed (h : Finds order f found) :
    ∀ choices, found = some choices → ∀ e ∈ choices, ∃ values, (e.1, values) ∈ order ∧ e.2 ∈ values := by
  have later {x : VarId} {values : List Int64} {rest : List (VarId × List Int64)} {e : VarId × Int64}
      (h : ∃ us, (e.1, us) ∈ rest ∧ e.2 ∈ us) : ∃ us, (e.1, us) ∈ (x, values) :: rest ∧ e.2 ∈ us := by
    obtain ⟨us, he, hv⟩ := h
    exact ⟨us, List.mem_cons_of_mem _ he, hv⟩
  induction h with
  | yes order =>
    rintro _ ⟨⟩
    exact nofun
  | no order => nofun
  | exhausted _ => nofun
  | skip _ _ ih => exact fun choices hc e he => later (ih choices hc e he)
  | choose _ split _ _ _ ih =>
    rintro _ ⟨⟩
    refine List.forall_mem_cons.2 ⟨⟨_, List.mem_cons_self .., ?_⟩, fun e he => later (ih _ rfl e he)⟩
    rw [split]
    exact List.mem_append_right _ (List.mem_cons_self ..)
  | refute _ _ _ => nofun

end Finds

/-! ## What an assignment leaves -/

namespace Formula

/-- Entering new choices is choosing them behind those that are there. -/
theorem after_enter {assigned : Choices} {choices : Assignment} (distinct : (choices.map (·.1)).Nodup)
    (new : ∀ e ∈ choices, assigned[e.1]? = none) (f : Formula) :
    f.after (Choices.enter assigned choices).toList = (f.after assigned.toList).after choices := by
  rw [← after_append]
  exact after_congr (Choices.get?_toList_enter distinct new) f

/-- A map that keeps what another one has makes up for it. -/
theorem after_of_keeps {s t : Choices} (keeps : ∀ (x : VarId) (v : Int64), s[x]? = some v → t[x]? = some v)
    (f : Formula) : (f.after s.toList).after t.toList = f.after t.toList := by
  rw [← after_append]
  refine after_congr (fun x => ?_) f
  rw [Assignment.get?_append, Choices.get?_toList, Choices.get?_toList]
  cases hx : s[x]? with
  | none => exact Option.none_or
  | some v => exact (keeps x v hx).symm

end Formula

/-! ## How calls begin -/

/-- Whether a call of the search for the original formula may begin like this. -/
structure Begins (original : Formula) (order : List (VarId × List Int64)) (f : Formula) (assigned : Choices) :
    Prop where
  residual : f = original.after assigned.toList
  unassigned : ∀ e ∈ order, assigned[e.1]? = none
  ready : Ready original.atoms order f
  order : order <:+ searchOrder original.candidates

namespace Begins
variable {original f : Formula} {order rest : List (VarId × List Int64)} {x : VarId} {values : List Int64}
variable {assigned : Choices}

theorem first (normal : original.Normal) : Begins original (searchOrder original.candidates) original ∅ where
  residual := rfl
  unassigned _ _ := rfl
  ready := normal.ready
  order := List.suffix_refl _

theorem distinct (h : Begins original order f assigned) : (order.map (·.1)).Nodup :=
  (h.order.sublist.map _).nodup original.nodup_searchOrder

theorem skip (h : Begins original ((x, values) :: rest) f assigned) (unused : f.mentions x = false) :
    Begins original rest f assigned where
  residual := h.residual
  unassigned := (List.forall_mem_cons.1 h.unassigned).2
  ready := h.ready.skip unused
  order := (List.suffix_cons _ rest).trans h.order

theorem assign (h : Begins original ((x, values) :: rest) f assigned) (v : Int64) :
    Begins original rest (f.assign x v) (assigned.insert x v) where
  residual := by
    obtain ⟨new, _⟩ := List.forall_mem_cons.1 h.unassigned
    have left : original.after (Choices.enter assigned [(x, v)]).toList =
        (original.after assigned.toList).after [(x, v)] := by
      apply Formula.after_enter
      · exact List.nodup_singleton x
      · exact List.forall_mem_singleton.2 new
    rw [← h.residual] at left
    exact left.symm
  unassigned := by
    obtain ⟨different, _⟩ := List.nodup_cons.1 h.distinct
    exact Backtracking.unassigned_insert different v (List.forall_mem_cons.1 h.unassigned).2
  ready := h.ready.assign v
  order := (List.suffix_cons _ rest).trans h.order

theorem decided (h : Begins original [] f assigned) : ∃ b, f = .const b :=
  h.ready.normal.eq_const fun a ha => nomatch h.ready.listed a ha

end Begins

/-! ## How calls end -/

/-- What a call of the search for the original formula works on, finds and leaves. -/
structure Call.Sound (original : Formula) (c : Call) : Prop where
  residual : c.formula = original.after c.entry.toList
  listed : ∀ x, c.formula.mentions x = true → x ∈ c.order.map (·.1)
  unassigned : ∀ e ∈ c.order, c.entry[e.1]? = none
  /-- No call runs out of variables before the formula is decided. -/
  decided : c.order = [] → ∃ b, c.formula = .const b
  restores : c.result = .ok false → c.exit = c.entry
  keeps : c.result = .ok true → ∀ (x : VarId) (v : Int64), c.entry[x]? = some v → c.exit[x]? = some v
  /-- What is new is a candidate of a variable that was left. -/
  chosen : c.result = .ok true → ∀ (x : VarId) (v : Int64), c.exit[x]? = some v →
    c.entry[x]? = some v ∨ ∃ values, (x, values) ∈ c.order ∧ (x, values) ∈ original.candidates ∧ v ∈ values
  satisfied : c.result = .ok true →
    c.formula.after c.exit.toList = .const true ∧ original.after c.exit.toList = .const true

section Calls
open Backtracking
variable {original f : Formula} {order rest : List (VarId × List Int64)} {x : VarId} {p : Progress}
variable {limits : Limits} {clock : Clock}

theorem Begins.sound (h : Begins original order f p.assignment) (limits : Limits) (clock : Clock) :
    let ended := (solve limits clock order f).run p
    Call.Sound original ⟨order, f, p.assignment, ended.1, ended.2.assignment⟩ := by
  intro ended
  have follows := follows_solve limits clock h.distinct f p h.unassigned
  generalize hs : search limits clock order f p.decisions = found at follows
  change Follows _ _ ended at follows
  clear_value ended
  have residual := h.residual
  have listed (x : VarId) (hx : f.mentions x = true) : x ∈ order.map (·.1) := by
    obtain ⟨a, ha, rfl⟩ := (Formula.mentions_iff x f).1 hx
    exact h.ready.listed a ha
  have decided (none : order = []) : ∃ b, f = .const b := by
    subst none
    exact h.decided
  -- a call that finds nothing owes what it began with, one that succeeds its new choices besides
  cases follows with
  | givenUp e q => exact ⟨residual, listed, h.unassigned, decided, nofun, nofun, nofun, nofun⟩
  | refuted kept count => exact ⟨residual, listed, h.unassigned, decided, fun _ => kept, nofun, nofun, nofun⟩
  | @found choices n q entered count =>
    have finds := finds_of_search hs
    have listing := finds.listed choices rfl
    have distinct := (finds.sublist choices rfl).nodup h.distinct
    have new (e : VarId × Int64) (he : e ∈ choices) : p.assignment[e.1]? = none := by
      obtain ⟨values, he, _⟩ := listing e he
      exact h.unassigned _ he
    have keeps (x : VarId) (v : Int64) (hx : p.assignment[x]? = some v) : q.assignment[x]? = some v :=
      entered ▸ Choices.keeps_enter distinct new hx
    have satisfied : original.after q.assignment.toList = .const true := by
      rw [entered, Formula.after_enter distinct new, ← residual]
      exact finds.after_eq_true choices rfl
    refine ⟨residual, listed, h.unassigned, decided, nofun, fun _ => keeps, fun _ x v hx => ?_,
      fun _ => ⟨?_, satisfied⟩⟩
    · refine (Choices.mem_of_getElem?_enter distinct (entered ▸ hx)).imp_right fun he => ?_
      obtain ⟨values, he, hv⟩ := listing _ he
      exact ⟨values, he, (searchOrder_perm _).mem_iff.1 (h.order.mem he), hv⟩
    · show f.after q.assignment.toList = _
      rw [residual, Formula.after_of_keeps keeps, satisfied]

theorem call_mem_calls (order : List (VarId × List Int64)) (f : Formula) (p : Progress) :
    let ended := (solve limits clock order f).run p
    ⟨order, f, p.assignment, ended.1, ended.2.assignment⟩ ∈ ended.2.calls := by
  obtain ⟨call, is⟩ : ∃ call, solve limits clock order f = recorded order f call := ⟨_, solve.eq_def ..⟩
  rw [is]
  exact List.mem_cons_self ..

theorem calls_recorded {call : Backtracking Bool} (h : Begins original order f p.assignment)
    (is : solve limits clock order f = recorded order f call) (made : ∀ c ∈ (call.run p).2.calls, c.Sound original) :
    ∀ c ∈ ((solve limits clock order f).run p).2.calls, c.Sound original := by
  have sound := h.sound limits clock
  rw [is] at sound ⊢
  exact List.forall_mem_cons.2 ⟨sound, made⟩

/-- Trying one value after another. A branch that failed gives the assignment back,
so that the next one is entered as it was. -/
theorem reports_tryEach {listed : List Int64} {assigned : Choices}
    (h : Begins original ((x, listed) :: rest) f assigned)
    (explored : ∀ g q, Begins original rest g q.assignment → (∀ c ∈ q.calls, c.Sound original) →
      ∀ c ∈ ((solve limits clock rest g).run q).2.calls, c.Sound original) :
    ∀ (values : List Int64) (p : Progress), p.assignment = assigned → (∀ c ∈ p.calls, c.Sound original) →
      ∀ c ∈ ((tryEach limits clock x f (solve limits clock rest) values).run p).2.calls, c.Sound original
  | [], _, _, sound => sound
  | v :: values, p, same, sound => by
    have later (q : Progress) := reports_tryEach h explored values q
    rw [tryEach_cons]
    cases limits.tick clock p.decisions with
    | error e => exact sound
    | ok n =>
      dsimp only
      split
      · exact later _ same sound
      · have begins : Begins original rest (f.assign x v) (p.assignment.insert x v) := same ▸ h.assign v
        have branch := explored _ ⟨p.decisions + 1, p.assignment.insert x v, p.calls⟩ begins sound
        have follows := follows_solve limits clock begins.distinct (f.assign x v)
          ⟨p.decisions + 1, p.assignment.insert x v, p.calls⟩ begins.unassigned
        generalize (solve limits clock rest (f.assign x v)).run ⟨p.decisions + 1, p.assignment.insert x v, p.calls⟩ =
          ended at branch follows
        generalize search limits clock rest (f.assign x v) (p.decisions + 1) = found at follows
        cases follows with
        | givenUp e q => exact branch
        | @refuted n q kept count =>
          have new : p.assignment[x]? = none := same ▸ (List.forall_mem_cons.1 h.unassigned).1
          -- undone, the choice leaves the assignment into which the next value is entered
          have back : q.assignment.erase x = assigned := by
            rw [kept, Choices.erase_insert new, same]
          exact later { q with assignment := q.assignment.erase x } back branch
        | found entered count => exact branch

/-- Every call that a call makes is sound, and so is the call itself. -/
theorem calls_solve {order : List (VarId × List Int64)} : ∀ (f : Formula) (p : Progress),
    Begins original order f p.assignment → (∀ c ∈ p.calls, c.Sound original) →
      ∀ c ∈ ((solve limits clock order f).run p).2.calls, c.Sound original := by
  induction order with
  | nil =>
    intro f p h sound
    obtain ⟨b, rfl⟩ := h.decided
    exact calls_recorded h (solve_const limits clock [] b) sound
  | cons e rest ih =>
    obtain ⟨x, values⟩ := e
    intro f p h sound
    by_cases hf : ∃ b, f = .const b
    · obtain ⟨b, rfl⟩ := hf
      exact calls_recorded h (solve_const limits clock _ b) sound
    · have undecided : ∀ b, f ≠ .const b := fun b hb => hf ⟨b, hb⟩
      refine calls_recorded h (solve_cons undecided values) ?_
      split
      · exact reports_tryEach h ih values p rfl sound
      · next unused => exact ih f p (h.skip (by simpa using unused)) sound

/-- Calls of the decision procedure, on assertions from the constructors that fold.
It answers what is read off a run that has one assignment, which it changes in place.
In that run the whole search and every call below it work on what the choices in the
assignment leave of the formula, have all variables of that in their order, without
values, and decide it before the variables run out; a failed call gives the
assignment back, and one that succeeds adds candidates that make the formula true. -/
theorem decideAll_calls (clock : Clock) (table : SymbolTable) (assertions : List Formula) (limits : Limits)
    {known : VarId → Prop} (built : ∀ f ∈ assertions, f.Built known) :
    let f := Formula.conj assertions
    let run := runFor limits clock f
    decideAll clock table assertions limits = answer table f run ∧
      ⟨searchOrder f.candidates, f, ∅, run.1, run.2.assignment⟩ ∈ run.2.calls ∧
      ∀ c ∈ run.2.calls, c.Sound f := by
  intro f run
  have begins : Begins f (searchOrder f.candidates) f start.assignment :=
    .first (Formula.Normal.conj fun g hg => (built g hg).normal)
  exact ⟨decideAll_eq_answer clock table assertions limits, call_mem_calls _ f start, calls_solve f start begins nofun⟩

/-- Two variables, the first of which leaves nothing to the second if it is zero. -/
def contested : SymbolTable × List Formula :=
  (⟨["m", "n"], by decide⟩,
   [.disj [.compare ⟨0⟩ .gt 0, .compare ⟨1⟩ .eq 7], .disj [.compare ⟨0⟩ .gt 0, .compare ⟨1⟩ .ne 7]])

/-- The branch on zero fails. Its choice is gone when the next value is tried. -/
theorem decideAll_calls_contested :
    let run := runFor .unbounded .nominal (Formula.conj contested.2)
    (∀ f ∈ contested.2, f.Built contested.1.Knows) ∧
    decideAll .nominal contested.1 contested.2 .unbounded = .ok (.sat ⟨[("m", 1), ("n", 0)]⟩) ∧
    run.2.calls.map (fun c => (c.entry.toList, c.result.toOption, c.exit.toList)) =
      [([], some true, [(⟨0⟩, 1)]), ([(⟨0⟩, 1)], some true, [(⟨0⟩, 1)]), ([(⟨0⟩, 0)], some false, [(⟨0⟩, 0)])] ∧
    ∀ c ∈ run.2.calls, c.Sound (Formula.conj contested.2) := by
  have m (c : Comparator) (v : Int64) : (Formula.compare ⟨0⟩ c v).Built contested.1.Knows :=
    .compare c v Nat.zero_lt_two
  have n (c : Comparator) (v : Int64) : (Formula.compare ⟨1⟩ c v).Built contested.1.Knows :=
    .compare c v Nat.one_lt_two
  have built : ∀ f ∈ contested.2, f.Built contested.1.Knows := by
    refine List.forall_mem_cons.2 ⟨.disj ?_, List.forall_mem_singleton.2 (.disj ?_)⟩
    · exact List.forall_mem_cons.2 ⟨m _ _, List.forall_mem_singleton.2 (n _ _)⟩
    · exact List.forall_mem_cons.2 ⟨m _ _, List.forall_mem_singleton.2 (n _ _)⟩
  obtain ⟨_, _, sound⟩ := decideAll_calls .nominal contested.1 contested.2 .unbounded built
  exact ⟨built, by cbv, by cbv, sound⟩

end Calls

end TransitionGuards
