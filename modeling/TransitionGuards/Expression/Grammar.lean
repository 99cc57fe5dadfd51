import TransitionGuards.Expression
import TransitionGuards.Expression.Comparison

/-
  The language of guard text under standard precedence, as a grammar:

    sentence     disjunction ws
    disjunction  conjunction (ws `||` conjunction)*
    conjunction  primary (ws `&&` primary)*
    primary      ws `(` disjunction ws `)`  or  ws name ws comparator ws literal ws

  Each relation ties a text to what it denotes. Lists of one expression stand
  for the expression, and what stands in parentheses stays one expression.
-/

namespace TransitionGuards

namespace Grammar

/-! ## Literals -/

/-- An optional minus sign and digits, the integer in the range of 64 bits. -/
inductive Integer : List Char → Int64 → Prop
  | unsigned {ds : List Char} {v : Int64} (digits : isDigits ds = true) (value : v.toInt = digitsValue ds) :
      Integer ds v
  | negative {ds : List Char} {v : Int64} (digits : isDigits ds = true) (value : v.toInt = -(digitsValue ds : Int)) :
      Integer ('-' :: ds) v

/-- The words for one and zero, in upper or lower case. -/
inductive Truth : List Char → Int64 → Prop
  | yes {word : List Char} (same : word.map Char.toLower = ['t', 'r', 'u', 'e']) : Truth word 1
  | no {word : List Char} (same : word.map Char.toLower = ['f', 'a', 'l', 's', 'e']) : Truth word 0

/-- What may stand behind the comparator: a number, or a word if the comparator
tells equal from different. -/
inductive Literal (c : Comparator) : List Char → Int64 → Prop
  | number {s : List Char} {v : Int64} (number : Integer s v) : Literal c s v
  | truth {s : List Char} {v : Int64} (equality : c = .eq ∨ c = .ne) (truth : Truth s v) : Literal c s v

/-! ## Comparisons -/

/-- A name, a comparator and a literal, with blanks before, between and behind
them. -/
inductive Compared : List Char → Comparison → Prop
  | of {b₁ b₂ b₃ b₄ name literal : List Char} {c : Comparator} {v : Int64} (named : name ≠ [])
      (name_chars : ∀ x ∈ name, isNameChar x = true) (value : Literal c literal v)
      (blank₁ : allBlank b₁ = true) (blank₂ : allBlank b₂ = true) (blank₃ : allBlank b₃ = true)
      (blank₄ : allBlank b₄ = true) :
      Compared (b₁ ++ (name ++ (b₂ ++ (c.symbol.toList ++ (b₃ ++ (literal ++ b₄))))))
        ⟨String.ofList name, c, v⟩

/-! ## Expressions -/

mutual

/-- A comparison, or a disjunction in parentheses. -/
inductive Primary : List Char → Expression → Prop
  | comparison {s : List Char} {c : Comparison} (compared : Compared s c) : Primary s (.compare c)
  | group {b s b' : List Char} {es : List Expression} (before : allBlank b = true) (inner : Disjunction s es)
      (after : allBlank b' = true) : Primary (b ++ '(' :: (s ++ (b' ++ [')']))) (Expression.anyOf es)

/-- Primaries with `&&` between them. -/
inductive Conjunction : List Char → List Expression → Prop
  | one {s : List Char} {e : Expression} (first : Primary s e) : Conjunction s [e]
  | more {s b t : List Char} {e : Expression} {es : List Expression} (first : Primary s e)
      (between : allBlank b = true) (rest : Conjunction t es) :
      Conjunction (s ++ (b ++ '&' :: '&' :: t)) (e :: es)

/-- Conjunctions with `||` between them. -/
inductive Disjunction : List Char → List Expression → Prop
  | one {s : List Char} {es : List Expression} (first : Conjunction s es) : Disjunction s [Expression.allOf es]
  | more {s b t : List Char} {es ds : List Expression} (first : Conjunction s es)
      (between : allBlank b = true) (rest : Disjunction t ds) :
      Disjunction (s ++ (b ++ '|' :: '|' :: t)) (Expression.allOf es :: ds)

end

/-- A whole guard text: a disjunction, and blanks behind it. -/
inductive Sentence : List Char → Expression → Prop
  | of {s b : List Char} {es : List Expression} (disjunction : Disjunction s es) (after : allBlank b = true) :
      Sentence (s ++ b) (Expression.anyOf es)

end Grammar

end TransitionGuards
