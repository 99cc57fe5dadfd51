import TransitionGuards.Solver

/-
  The built-in decision procedure.

  Every atom compares one variable with a constant, so the integers fall into
  finitely many regions per variable on which each atom keeps its truth value.
  Zero and the constants `c` with their neighbours `c - 1` and `c + 1` meet
  every region: these are the variable's candidates. A depth-first search
  over the candidates, folding the formula after each assignment, is complete.

  Candidates are tried nearest to zero first and variables with few candidates
  come first, which settles both the witness that is found and the number of
  decisions made. `Limits.tick` counts the decisions against the limits.
-/

namespace TransitionGuards

/-- The time that has passed since the search began when its `n`-th decision
is counted. -/
abbrev Clock := Nat → Duration

/-- The clock that allows a microsecond for each decision. -/
def Clock.nominal : Clock := fun n => ⟨n * 1000⟩

/-- Values chosen for some variables, in the order of the choices. -/
abbrev Assignment := List (VarId × Int64)

def Assignment.get? (s : Assignment) (x : VarId) : Option Int64 :=
  (s.find? fun e => decide (e.1 = x)).map (·.2)

/-! ## Candidates -/

/-- Whether `v` is tried no later than `w`: nearer to zero first, and of two
at the same distance the positive one. -/
def triedBefore (v w : Int64) : Bool :=
  let m := v.toInt.natAbs
  let n := w.toInt.natAbs
  decide (m < n) || (m == n && (decide (0 ≤ v) || decide (w < 0)))

/-- A constant with its neighbours, as far as 64 bits hold them. -/
def neighbours (c : Int64) : List Int64 :=
  c :: ((if c = Int64.minValue then [] else [c - 1]) ++ (if c = Int64.maxValue then [] else [c + 1]))

/-- Keeps one of each run of equal values. -/
def dropRepeats : List Int64 → List Int64
  | [] => []
  | [v] => [v]
  | v :: w :: rest => if v = w then dropRepeats (w :: rest) else v :: dropRepeats (w :: rest)

/-- The values worth trying for a variable compared with the constants. -/
def candidateValues (constants : List Int64) : List Int64 :=
  dropRepeats ((0 :: constants.flatMap neighbours).mergeSort triedBefore)

def candidatesOf (atoms : List Atom) (x : VarId) : List Int64 :=
  candidateValues ((atoms.filter fun a => decide (a.var = x)).map (·.value))

/-- Every variable of the formula with its candidates, by place in the table. -/
def Formula.candidates (f : Formula) : List (VarId × List Int64) :=
  let atoms := f.atoms
  let vars := (atoms.map (·.var)).eraseDups.mergeSort fun x y => decide (x.index ≤ y.index)
  vars.map fun x => (x, candidatesOf atoms x)

/-- The order in which the search takes the variables: fewest candidates
first, and of equally many the one registered first. -/
def searchOrder (candidates : List (VarId × List Int64)) : List (VarId × List Int64) :=
  candidates.mergeSort fun a b => decide (a.2.length ≤ b.2.length)

/-! ## The search -/

/-- How many decisions lie between two looks at the clock. -/
def clockInterval : Nat := 256

/-- Counts one more decision after `made`. The budget is checked before the
clock. -/
def Limits.tick (limits : Limits) (clock : Clock) (made : Nat) : Except SolverError Nat :=
  let n := made + 1
  match limits.maxDecisions with
  | some most => if most < n then .error (.budgetExhausted most) else expired n
  | none => expired n
where
  /-- Gives up at every `clockInterval`-th decision once the time is over. -/
  expired (n : Nat) : Except SolverError Nat :=
    match limits.timeout with
    | some most =>
      if n % clockInterval = 0 ∧ most.nanoseconds < (clock n).nanoseconds then .error (.timeout most) else .ok n
    | none => .ok n

/-- What a search has found, and the decisions made so far. -/
structure Finding where
  choices : Option Assignment
  decisions : Nat
  deriving Inhabited

/-- Tries the values for `x` one after another, each a decision. A value that
makes the formula false is passed over; `explore` goes on with the others. -/
def tryValues (limits : Limits) (clock : Clock) (x : VarId) (f : Formula)
    (explore : Formula → Nat → Except SolverError Finding) :
    List Int64 → Nat → Except SolverError Finding
  | [], made => .ok ⟨none, made⟩
  | v :: rest, made => do
    let made ← limits.tick clock made
    match f.assign x v with
    | .const false => tryValues limits clock x f explore rest made
    | g =>
      let found ← explore g made
      match found.choices with
      | some choices => .ok ⟨some ((x, v) :: choices), found.decisions⟩
      | none => tryValues limits clock x f explore rest found.decisions

/-- Looks for values of the variables in `order` that make the formula true,
`made` decisions after the start. A variable that the formula no longer
mentions is passed over. -/
def search (limits : Limits) (clock : Clock) :
    List (VarId × List Int64) → Formula → Nat → Except SolverError Finding
  | _, .const b, made => .ok ⟨if b then some [] else none, made⟩
  | [], _, made => .ok ⟨none, made⟩
  | (x, values) :: rest, f, made =>
    if f.mentions x then
      tryValues limits clock x f (fun g n => search limits clock rest g n) values made
    else search limits clock rest f made

/-- The witness of a successful search: a variable without a choice gets its
first candidate. -/
def witnessOf (symbols : SymbolTable) (candidates : List (VarId × List Int64)) (choices : Assignment) : Witness :=
  Witness.ofList (candidates.map fun (x, values) =>
    ((symbols.name? x).getD "", (choices.get? x).getD (values.headD 0)))

/-- Decides whether the assertions can hold together. -/
def decideAll (clock : Clock) (symbols : SymbolTable) (assertions : List Formula) (limits : Limits) :
    Except SolverError Outcome :=
  let f := Formula.conj assertions
  let candidates := f.candidates
  match search limits clock (searchOrder candidates) f 0 with
  | .error e => .error e
  | .ok ⟨none, _⟩ => .ok .unsat
  | .ok ⟨some choices, _⟩ => .ok (.sat (witnessOf symbols candidates choices))

/-- The built-in backend. Each query starts a clock of its own. -/
def Backend.builtin {m : Type → Type} [Monad m] (start : m Clock) : Backend m where
  name := "builtin"
  check symbols assertions limits := do
    let clock ← start
    pure (decideAll clock symbols assertions limits)

end TransitionGuards
