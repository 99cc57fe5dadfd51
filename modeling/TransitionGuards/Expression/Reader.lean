import TransitionGuards.Expression.Comparison

/-
  Reading whole guard texts, in one of two ways.

  Under standard precedence `&&` binds tighter than `||` and parentheses
  group; a text that is not in the language becomes a single unparsed leaf.
  Under legacy precedence the text is cut at every `&&` and the pieces at every
  `||`, there are no parentheses, and a piece that is no comparison becomes an
  unparsed leaf of its own.
-/

namespace TransitionGuards

/-- How `&&` and `||` group. -/
inductive Precedence where
  | legacy
  | standard
  deriving DecidableEq, Repr, Inhabited

namespace Expression

/-! ## Standard precedence -/

/-- What is left of `s` when something has been read. -/
abbrev Shorter (s : List Char) := { r : List Char // r.length < s.length }

abbrev Left (s : List Char) := { r : List Char // r.length ≤ s.length }

mutual

/-- A comparison, or an expression in parentheses. Whatever is wrong between
parentheses, it is the opening one that is complained about: no name begins
there either. -/
def readPrimary (s : List Char) : Except Failure (Expression × Shorter s) :=
  match h : skipBlanks s with
  | [] => .error ⟨[], "expected variable name"⟩
  | c :: rest =>
    have hs : rest.length < s.length := by
      have := length_skipBlanks_le s
      rw [h] at this
      simp only [List.length_cons] at this
      omega
    if c = '(' then
      match readAny rest with
      | .ok (e, ⟨r, hr⟩) =>
        match h₂ : skipBlanks r with
        | ')' :: r₂ => .ok (e, ⟨r₂, by
            have := length_skipBlanks_le r
            rw [h₂] at this
            simp only [List.length_cons] at this
            omega⟩)
        | _ => .error ⟨c :: rest, "expected variable name"⟩
      | .error _ => .error ⟨c :: rest, "expected variable name"⟩
    else
      match h₂ : readComparison (c :: rest) with
      | .ok (cmp, r) => .ok (.compare cmp, ⟨r, by
          have := length_readComparison h₂
          simp only [List.length_cons] at this
          omega⟩)
      | .error f => .error f
termination_by 4 * s.length

/-- Primaries with `&&` between them. -/
def readAll (s : List Char) : Except Failure (Expression × Shorter s) :=
  match readPrimary s with
  | .error f => .error f
  | .ok (e, ⟨r, hr⟩) =>
    let (es, ⟨r₂, hr₂⟩) := readMoreAll r
    .ok (allOf (e :: es), ⟨r₂, by omega⟩)
termination_by 4 * s.length + 1

/-- As many times `&&` and a primary as there are. A `&&` without a primary
behind it is left. -/
def readMoreAll (s : List Char) : List Expression × Left s :=
  match h : skipBlanks s with
  | '&' :: '&' :: rest =>
    have hs : rest.length < s.length := by
      have := length_skipBlanks_le s
      rw [h] at this
      simp only [List.length_cons] at this
      omega
    match readPrimary rest with
    | .error _ => ([], ⟨s, Nat.le_refl _⟩)
    | .ok (e, ⟨r, hr⟩) =>
      let (es, ⟨r₂, hr₂⟩) := readMoreAll r
      (e :: es, ⟨r₂, by omega⟩)
  | _ => ([], ⟨s, Nat.le_refl _⟩)
termination_by 4 * s.length

/-- Conjunctions with `||` between them. -/
def readAny (s : List Char) : Except Failure (Expression × Shorter s) :=
  match readAll s with
  | .error f => .error f
  | .ok (e, ⟨r, hr⟩) =>
    let (es, ⟨r₂, hr₂⟩) := readMoreAny r
    .ok (anyOf (e :: es), ⟨r₂, by omega⟩)
termination_by 4 * s.length + 2

/-- As many times `||` and a conjunction as there are. -/
def readMoreAny (s : List Char) : List Expression × Left s :=
  match h : skipBlanks s with
  | '|' :: '|' :: rest =>
    have hs : rest.length < s.length := by
      have := length_skipBlanks_le s
      rw [h] at this
      simp only [List.length_cons] at this
      omega
    match readAll rest with
    | .error _ => ([], ⟨s, Nat.le_refl _⟩)
    | .ok (e, ⟨r, hr⟩) =>
      let (es, ⟨r₂, hr₂⟩) := readMoreAny r
      (e :: es, ⟨r₂, by omega⟩)
  | _ => ([], ⟨s, Nat.le_refl _⟩)
termination_by 4 * s.length

end

def readStandard (s : List Char) : Except Failure Expression :=
  match readAny s with
  | .error f => .error f
  | .ok (e, ⟨r, _⟩) =>
    match skipBlanks r with
    | [] => .ok e
    | rest => .error (.leftOver rest)

/-! ## Legacy precedence -/

/-- The pieces of the text between the places where `c` stands twice, found
from left to right. -/
def splitAtPairs (c : Char) : List Char → List (List Char)
  | [] => [[]]
  | [x] => [[x]]
  | x :: y :: rest =>
    if x = c ∧ y = c then [] :: splitAtPairs c rest
    else match splitAtPairs c (y :: rest) with
      | piece :: more => (x :: piece) :: more
      | [] => [[x]]

def hasPair (c : Char) : List Char → Bool
  | x :: y :: rest => decide (x = c ∧ y = c) || hasPair c (y :: rest)
  | _ => false

theorem length_splitAtPairs_le (c : Char) (s : List Char) : ∀ p ∈ splitAtPairs c s, p.length ≤ s.length := by
  fun_induction splitAtPairs c s with
  | case1 => simp
  | case2 x => simp
  | case3 x y rest pair ih =>
    refine List.forall_mem_cons.2 ⟨Nat.zero_le _, fun p hp => ?_⟩
    have := ih p hp
    simp only [List.length_cons]
    omega
  | case4 x y rest other piece more split ih =>
    rw [split] at ih
    obtain ⟨first, others⟩ := List.forall_mem_cons.1 ih
    refine List.forall_mem_cons.2 ⟨Nat.succ_le_succ first, fun p hp => ?_⟩
    exact Nat.le_succ_of_le (others p hp)
  | case5 x y rest other split ih => simp

theorem length_splitAtPairs_lt {c : Char} {s : List Char} (h : hasPair c s = true) :
    ∀ p ∈ splitAtPairs c s, p.length < s.length := by
  fun_induction splitAtPairs c s with
  | case1 => cases h
  | case2 x => cases h
  | case3 x y rest pair ih =>
    refine List.forall_mem_cons.2 ⟨Nat.zero_lt_succ _, fun p hp => ?_⟩
    have := length_splitAtPairs_le c rest p hp
    simp only [List.length_cons]
    omega
  | case4 x y rest other piece more split ih =>
    rw [hasPair, decide_eq_false other, Bool.false_or] at h
    have ih := ih h
    rw [split] at ih
    obtain ⟨first, others⟩ := List.forall_mem_cons.1 ih
    refine List.forall_mem_cons.2 ⟨Nat.succ_lt_succ first, fun p hp => ?_⟩
    exact Nat.lt_succ_of_lt (others p hp)
  | case5 x y rest other split ih => simp

/-- The comparison that the text is, or else the text as it stands. -/
def legacyComparison (text : String) : Expression :=
  match Comparison.parse text with
  | .ok c => .compare c
  | .error e => .unparsed text e.message

mutual

/-- The conjunction of the operands between `&&` if there is one, or else the
disjunction of those between `||`, or else a comparison. -/
def readLegacy (s : List Char) : Expression :=
  let text := trim s
  if hasPair '&' text then allOf ((splitAtPairs '&' text).attach.map fun p => readOperand p.1)
  else if hasPair '|' text then anyOf ((splitAtPairs '|' text).attach.map fun p => readOperand p.1)
  else legacyComparison (String.ofList text)
termination_by 2 * s.length
decreasing_by
  all_goals
    have shorter := length_splitAtPairs_lt ‹_› p.1 p.2
    have trimmed : text.length ≤ s.length := length_trim_le s
    omega

/-- What stands on a side of `&&` or `||`. -/
def readOperand (piece : List Char) : Expression :=
  if allBlank piece then .unparsed "" "empty operand" else readLegacy piece
termination_by 2 * piece.length + 1

end

/-! ## Either -/

/-- Reads guard text. -/
def parse (precedence : Precedence) (text : String) : Expression :=
  let s := text.toList
  if allBlank s then .empty
  else match precedence with
    | .legacy => readLegacy s
    | .standard =>
      match readStandard s with
      | .ok e => e
      | .error f => .unparsed (trimText text) (f.render s)

end Expression

end TransitionGuards
