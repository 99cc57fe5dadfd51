import TransitionGuards.Proofs.Decision

/-
  What limits do to a search.

  The decisions of a search do not depend on its limits and its clock. They are
  made one after another, and the first one that is refused ends the search:
  `Makes run n choices` says that a run makes `n` decisions and finds the
  choices, unless the limits refuse one of the `n`. Parts of a search that run
  one after another add up their decisions, so every search makes some number of
  them (`search_makes`). What is left is which decision is refused first: under
  a budget the one that exceeds it (`refusal_budget`), and under a timeout none
  other than without it, or one at which it is time to look at the clock
  (`refusal_timeout`).
-/

namespace TransitionGuards

/-- The first refusal among `n` decisions that follow `made` others. -/
def Limits.refusal (limits : Limits) (clock : Clock) (made : Nat) : Nat → Option SolverError
  | 0 => none
  | n + 1 =>
    match limits.tick clock made with
    | .error e => some e
    | .ok made => limits.refusal clock made n

/-- The result after `n` decisions that follow `made` others, unless one of the
`n` is refused. -/
def Limits.grant {α : Type} (limits : Limits) (clock : Clock) (made n : Nat) (result : α) : Except SolverError α :=
  match limits.refusal clock made n with
  | some e => .error e
  | none => .ok result

/-- A part of a search, which starts when some decisions have been made. -/
abbrev SearchRun := Limits → Clock → Nat → Except SolverError Finding

/-- Whether the run makes `n` decisions and finds the choices, under whatever
limits and clock. -/
def Makes (run : SearchRun) (n : Nat) (choices : Option Assignment) : Prop :=
  ∀ limits clock made, run limits clock made = limits.grant clock made n ⟨choices, made + n⟩

section
variable {α β : Type} {limits : Limits} {clock : Clock} {made made' n m : Nat} {choices : Option Assignment}

/-! ## Decisions one after another -/

theorem tick_eq_ok (h : limits.tick clock made = .ok made') : made' = made + 1 := by
  have expired (h : Limits.tick.expired limits clock (made + 1) = .ok made') : made' = made + 1 := by
    unfold Limits.tick.expired at h
    split at h
    · split at h
      · cases h
      · cases h
        rfl
    · cases h
      rfl
  -- the budget comes first, and only within it the clock
  unfold Limits.tick at h
  dsimp only at h
  split at h
  · split at h
    · cases h
    · exact expired h
  · exact expired h

theorem grant_bind (limits : Limits) (clock : Clock) (made n : Nat) (a : α) (next : α → Except SolverError β) :
    limits.grant clock made n a >>= next = limits.grant clock made n () >>= fun _ => next a := by
  unfold Limits.grant
  cases limits.refusal clock made n <;> rfl

theorem grant_succ (limits : Limits) (clock : Clock) (made n : Nat) (a : α) :
    limits.grant clock made (n + 1) a = limits.tick clock made >>= fun made => limits.grant clock made n a := by
  unfold Limits.grant
  rw [Limits.refusal]
  cases limits.tick clock made <;> rfl

theorem grant_add (limits : Limits) (clock : Clock) (made n m : Nat) (a : α) :
    limits.grant clock made (n + m) a =
      limits.grant clock made n () >>= fun _ => limits.grant clock (made + n) m a := by
  induction n generalizing made with
  | zero => rw [Nat.zero_add]; rfl
  | succ n ih =>
    rw [Nat.succ_add, grant_succ, grant_succ]
    cases tick : limits.tick clock made with
    | error e => rfl
    | ok made' =>
      obtain rfl := tick_eq_ok tick
      show limits.grant clock (made + 1) (n + m) a = _
      rw [ih, Nat.add_right_comm, Nat.add_assoc]
      rfl

/-! ## The search -/

def SearchRun.trying (x : VarId) (f : Formula) (explore : Formula → SearchRun) (values : List Int64) : SearchRun :=
  fun limits clock made => tryValues limits clock x f (fun g => explore g limits clock) values made

section
variable {x : VarId} {f : Formula} {explore : Formula → SearchRun} {v : Int64} {values : List Int64}
variable {chosen : Assignment}

/-- A run that begins with a decision makes one more than the rest of it. -/
theorem Makes.of_tick {run rest : SearchRun}
    (first : ∀ limits clock made, run limits clock made = limits.tick clock made >>= rest limits clock)
    (h : Makes rest n choices) : Makes run (n + 1) choices := by
  intro limits clock made
  rw [first, grant_succ]
  cases tick : limits.tick clock made with
  | error e => rfl
  | ok made' =>
    obtain rfl := tick_eq_ok tick
    show rest limits clock (made + 1) = limits.grant clock (made + 1) n _
    rw [h limits clock (made + 1), Nat.add_right_comm, Nat.add_assoc]

theorem trying_false (hf : f.assign x v = .const false) (rest : Makes (.trying x f explore values) n choices) :
    Makes (.trying x f explore (v :: values)) (n + 1) choices := by
  apply Makes.of_tick _ rest
  intro limits clock made
  simp only [SearchRun.trying, tryValues, hf]
  rfl

/-- A search with the value ends the trial, or is followed by the other values. -/
theorem trying_other (hf : f.assign x v ≠ .const false) (limits : Limits) (clock : Clock) (made : Nat) :
    SearchRun.trying x f explore (v :: values) limits clock made =
      limits.tick clock made >>= fun made => explore (f.assign x v) limits clock made >>= fun found =>
        match found.choices with
        | some chosen => .ok ⟨some ((x, v) :: chosen), found.decisions⟩
        | none => SearchRun.trying x f explore values limits clock found.decisions := by
  rw [SearchRun.trying, tryValues_cons]
  congr 1
  funext made
  exact if_neg (mt Formula.isFalse_iff.1 hf)

theorem trying_found (hf : f.assign x v ≠ .const false) (first : Makes (explore (f.assign x v)) m (some chosen)) :
    Makes (.trying x f explore (v :: values)) (m + 1) (some ((x, v) :: chosen)) := by
  apply Makes.of_tick (trying_other hf)
  intro limits clock made
  beta_reduce
  rw [first limits clock made, grant_bind]
  unfold Limits.grant
  cases limits.refusal clock made m <;> rfl

theorem trying_refuted (hf : f.assign x v ≠ .const false) (first : Makes (explore (f.assign x v)) m none)
    (rest : Makes (.trying x f explore values) n choices) :
    Makes (.trying x f explore (v :: values)) (m + n + 1) choices := by
  apply Makes.of_tick (trying_other hf)
  intro limits clock made
  beta_reduce
  rw [first limits clock made, grant_bind, grant_add]
  congr 1
  funext _
  show SearchRun.trying x f explore values limits clock (made + m) = _
  rw [rest limits clock (made + m), Nat.add_assoc]

/-- Trying values makes some number of decisions if what it explores does. -/
theorem trying_makes (x : VarId) (f : Formula) (explored : ∀ g, ∃ n choices, Makes (explore g) n choices) :
    ∀ values : List Int64, ∃ n choices, Makes (.trying x f explore values) n choices
  | [] => ⟨0, none, fun _ _ _ => rfl⟩
  | v :: values => by
    obtain ⟨n, choices, rest⟩ := trying_makes x f explored values
    obtain ⟨m, found, first⟩ := explored (f.assign x v)
    by_cases hf : f.assign x v = .const false
    · exact ⟨_, _, trying_false hf rest⟩
    · cases found with
      | some chosen => exact ⟨_, _, trying_found hf first⟩
      | none => exact ⟨_, _, trying_refuted hf first rest⟩

end

/-- How many decisions a search makes, and what it finds, is up to the variables
and the formula alone. -/
theorem search_makes (order : List (VarId × List Int64)) (f : Formula) :
    ∃ n choices, Makes (fun limits clock made => search limits clock order f made) n choices := by
  induction order generalizing f with
  | nil =>
    by_cases hf : ∃ b, f = .const b
    · obtain ⟨b, rfl⟩ := hf
      exact ⟨0, _, fun _ _ _ => rfl⟩
    · exact ⟨0, none, fun limits clock made => search_nil (fun b hb => hf ⟨b, hb⟩) made⟩
  | cons e rest ih =>
    obtain ⟨x, values⟩ := e
    by_cases hf : ∃ b, f = .const b
    · obtain ⟨b, rfl⟩ := hf
      exact ⟨0, _, fun _ _ _ => rfl⟩
    · have undecided : ∀ b, f ≠ .const b := fun b hb => hf ⟨b, hb⟩
      -- a variable that the formula has lost is skipped without a decision
      by_cases used : f.mentions x = true
      · obtain ⟨n, choices, makes⟩ := trying_makes x f ih values
        refine ⟨n, choices, fun limits clock made => ?_⟩
        beta_reduce
        rw [search_cons undecided, if_pos used]
        exact makes limits clock made
      · obtain ⟨n, choices, makes⟩ := ih f
        refine ⟨n, choices, fun limits clock made => ?_⟩
        beta_reduce
        rw [search_cons undecided, if_neg used]
        exact makes limits clock made

/-! ## What is refused first -/

theorem refusal_unbounded (clock : Clock) (made n : Nat) : Limits.unbounded.refusal clock made n = none := by
  induction n generalizing made with
  | zero => rfl
  | succ n ih => exact ih (made + 1)

theorem refusal_budget (clock : Clock) {made budget : Nat} (n : Nat) (within : made ≤ budget) :
    (Limits.mk none (some budget)).refusal clock made n =
      if budget < made + n then some (.budgetExhausted budget) else none := by
  have tick (made : Nat) : (Limits.mk none (some budget)).tick clock made =
      if budget < made + 1 then .error (.budgetExhausted budget) else .ok (made + 1) := rfl
  induction n generalizing made with
  | zero => rw [if_neg (by omega)]; rfl
  | succ n ih =>
    rw [Limits.refusal, tick]
    by_cases last : budget < made + 1
    · rw [if_pos last, if_pos (by omega)]
    · rw [if_neg last]
      show Limits.refusal _ clock (made + 1) n = _
      rw [ih (by omega), Nat.add_right_comm, Nat.add_assoc]

theorem expired_cases (clock : Clock) (timeout : Duration) (budget : Option Nat) (n : Nat) :
    Limits.tick.expired ⟨some timeout, budget⟩ clock (n + 1) = .ok (n + 1) ∨
      (Limits.tick.expired ⟨some timeout, budget⟩ clock (n + 1) = .error (.timeout timeout) ∧ clockInterval ≤ n + 1) := by
  simp only [Limits.tick.expired]
  split
  · next late => exact .inr ⟨rfl, Nat.le_of_dvd (Nat.succ_pos n) (Nat.dvd_of_mod_eq_zero late.1)⟩
  · exact .inl rfl

/-- With a timeout a decision is refused as without it, or else for the timeout
when it is time to look at the clock, which is done within the budget only. -/
theorem tick_timeout (clock : Clock) (made : Nat) (timeout : Duration) (budget : Option Nat) :
    (Limits.mk (some timeout) budget).tick clock made = (Limits.mk none budget).tick clock made ∨
      ((Limits.mk (some timeout) budget).tick clock made = .error (.timeout timeout) ∧
        clockInterval ≤ made + 1 ∧ ∀ k, budget = some k → clockInterval ≤ k) := by
  cases budget with
  | none =>
    rcases expired_cases clock timeout none made with ok | ⟨error, late⟩
    · exact .inl ok
    · exact .inr ⟨error, late, nofun⟩
  | some k =>
    simp only [Limits.tick]
    -- the budget is looked at first, so beyond it the clock has no say
    by_cases exceeded : k < made + 1
    · rw [if_pos exceeded, if_pos exceeded]
      exact .inl rfl
    · rw [if_neg exceeded, if_neg exceeded]
      rcases expired_cases clock timeout (some k) made with ok | ⟨error, late⟩
      · exact .inl ok
      · refine .inr ⟨error, late, fun k' hk => ?_⟩
        cases hk
        omega

/-- With a timeout the first refusal is the one without it or the timeout. It is
not the timeout if no decision within the budget looks at the clock. -/
theorem refusal_timeout (clock : Clock) (made n : Nat) (timeout : Duration) (budget : Option Nat) :
    (Limits.mk (some timeout) budget).refusal clock made n = (Limits.mk none budget).refusal clock made n ∨
      ((Limits.mk (some timeout) budget).refusal clock made n = some (.timeout timeout) ∧
        clockInterval ≤ made + n ∧ ∀ k, budget = some k → clockInterval ≤ k) := by
  induction n generalizing made with
  | zero => exact .inl rfl
  | succ n ih =>
    simp only [Limits.refusal]
    rcases tick_timeout clock made timeout budget with same | ⟨error, late, within⟩
    · rw [same]
      cases tick : (Limits.mk none budget).tick clock made with
      | error e => exact .inl rfl
      | ok made' =>
        obtain rfl := tick_eq_ok tick
        have := ih (made + 1)
        rwa [Nat.add_right_comm, Nat.add_assoc] at this
    · rw [error]
      exact .inr ⟨rfl, by omega, within⟩

theorem refusal_ne_timeout (clock : Clock) (n : Nat) (timeout : Duration) (budget : Option Nat) :
    (Limits.mk none budget).refusal clock 0 n ≠ some (.timeout timeout) := by
  cases budget with
  | none =>
    rw [show Limits.mk none none = .unbounded from rfl, refusal_unbounded]
    nofun
  | some k =>
    rw [refusal_budget clock n (Nat.zero_le k)]
    split <;> nofun

theorem grant_ne_timeout (clock : Clock) (n : Nat) (timeout : Duration) (budget : Option Nat) (a : α) :
    (Limits.mk none budget).grant clock 0 n a ≠ .error (.timeout timeout) := by
  have never := refusal_ne_timeout clock n timeout budget
  unfold Limits.grant
  generalize (Limits.mk none budget).refusal clock 0 n = refusal at never
  cases refusal with
  | none => nofun
  | some e => simpa using never

end

/-! ## Answers under limits -/

/-- Whether the search for values of the assertions makes `n` decisions if
nothing stops it. -/
def TakesDecisions (assertions : List Formula) (n : Nat) : Prop :=
  ∀ clock, ∃ choices, search .unbounded clock (searchOrder (Formula.conj assertions).candidates)
    (Formula.conj assertions) 0 = .ok ⟨choices, n⟩

/-- There is one answer to a query, and one number of decisions that lead to it:
what limits do is to refuse one of these. -/
theorem decideAll_makes (table : SymbolTable) (assertions : List Formula) :
    ∃ n answer, TakesDecisions assertions n ∧
      ∀ clock limits, decideAll clock table assertions limits = limits.grant clock 0 n answer := by
  obtain ⟨n, choices, makes⟩ := search_makes (searchOrder (Formula.conj assertions).candidates) (Formula.conj assertions)
  have found (limits : Limits) (clock : Clock) : search limits clock (searchOrder (Formula.conj assertions).candidates)
      (Formula.conj assertions) 0 = limits.grant clock 0 n ⟨choices, n⟩ := by
    simpa only [Nat.zero_add] using makes limits clock 0
  have takes : TakesDecisions assertions n := by
    intro clock
    refine ⟨choices, ?_⟩
    rw [found, Limits.grant, refusal_unbounded]
  -- the answer is made of the choices alone, whatever limits the search had
  cases choices with
  | none =>
    refine ⟨n, .unsat, takes, fun clock limits => ?_⟩
    simp only [decideAll, found, Limits.grant]
    cases limits.refusal clock 0 n <;> rfl
  | some chosen =>
    refine ⟨n, .sat (witnessOf table (Formula.conj assertions).candidates chosen), takes, fun clock limits => ?_⟩
    simp only [decideAll, found, Limits.grant]
    cases limits.refusal clock 0 n <;> rfl

/-- Limits can only replace an answer by an error. Without limits there is one
answer, after a number of decisions that no clock changes. A budget below that
number is exhausted, and any other leaves the answer as it is. A timeout added to
a budget, or to none, is reported or changes nothing, and it is not reported if
fewer than 256 decisions are made before the search ends or the budget runs
out. -/
theorem decideAll_limits (table : SymbolTable) (assertions : List Formula) :
    ∃ n answer, TakesDecisions assertions n ∧
      (∀ clock, decideAll clock table assertions .unbounded = .ok answer) ∧
      (∀ clock budget,
        (budget < n → decideAll clock table assertions ⟨none, some budget⟩ = .error (.budgetExhausted budget)) ∧
        (n ≤ budget → decideAll clock table assertions ⟨none, some budget⟩ = .ok answer)) ∧
      ∀ clock timeout budget,
        (decideAll clock table assertions ⟨some timeout, budget⟩ = .error (.timeout timeout) ∨
          decideAll clock table assertions ⟨some timeout, budget⟩ = decideAll clock table assertions ⟨none, budget⟩) ∧
        ((n < 256 ∨ ∃ k, budget = some k ∧ k < 256) →
          decideAll clock table assertions ⟨some timeout, budget⟩ ≠ .error (.timeout timeout)) := by
  obtain ⟨n, answer, takes, eq⟩ := decideAll_makes table assertions
  refine ⟨n, answer, takes, fun clock => ?_, fun clock budget => ?_, fun clock timeout budget => ?_⟩
  · rw [eq, Limits.grant, refusal_unbounded]
  · rw [eq, Limits.grant, refusal_budget clock n (Nat.zero_le budget), Nat.zero_add]
    constructor
    · intro exceeded
      rw [if_pos exceeded]
    · intro enough
      rw [if_neg (by omega)]
  · have never := grant_ne_timeout clock n timeout budget answer
    rw [eq, eq]
    rcases refusal_timeout clock 0 n timeout budget with same | ⟨error, late, within⟩
    · rw [Limits.grant, same]
      exact ⟨.inr rfl, fun _ => never⟩
    · rw [Limits.grant, error]
      refine ⟨.inl rfl, fun early => ?_⟩
      -- the timeout is for a decision that looks at the clock, within the budget
      have interval : clockInterval = 256 := rfl
      rcases early with few | ⟨k, hk, few⟩
      · omega
      · have := within k hk
        omega

/-- Four variables of which none and some is zero. -/
def blocked : SymbolTable × List Formula :=
  let vars := [VarId.mk 0, ⟨1⟩, ⟨2⟩, ⟨3⟩]
  (⟨["a", "b", "c", "d"], by decide⟩, [.conj (vars.map (.compare · .ne 0)), .disj (vars.map (.compare · .eq 0))])

/-- The search refutes `blocked` in 45 decisions. Five are not enough, and no
time at all is. -/
theorem decideAll_limits_blocked :
    TakesDecisions blocked.2 45 ∧
    decideAll .nominal blocked.1 blocked.2 ⟨none, some 5⟩ = .error (.budgetExhausted 5) ∧
    decideAll .nominal blocked.1 blocked.2 ⟨none, some 45⟩ = .ok .unsat ∧
    decideAll .nominal blocked.1 blocked.2 ⟨some ⟨0⟩, none⟩ ≠ .error (.timeout ⟨0⟩) := by
  obtain ⟨n, answer, takes, answered, budgets, timeouts⟩ := decideAll_limits blocked.1 blocked.2
  have counted : search .unbounded .nominal (searchOrder (Formula.conj blocked.2).candidates)
      (Formula.conj blocked.2) 0 = .ok ⟨none, 45⟩ := by cbv
  have unsat : decideAll .nominal blocked.1 blocked.2 .unbounded = .ok .unsat := by
    simp only [decideAll, counted]
  obtain ⟨choices, found⟩ := takes .nominal
  rw [counted] at found
  cases found
  rw [answered] at unsat
  cases unsat
  exact ⟨takes, (budgets _ 5).1 (by decide), (budgets _ 45).2 (Nat.le_refl _),
    (timeouts _ ⟨0⟩ none).2 (.inl (by decide))⟩

end TransitionGuards
