import TransitionGuards.Comparator
import TransitionGuards.Text.Decimal

/-
  Guard text as a tree: comparisons under conjunctions and disjunctions.
  Reading never fails as a whole. Text that is not in the language stays in
  the tree as a leaf, with the reason why it could not be read.
-/

namespace TransitionGuards

/-- `name comparator value`, the name not yet tied to a variable. -/
structure Comparison where
  name : String
  comparator : Comparator
  value : Int64
  deriving DecidableEq, Inhabited

/-- Guard text that has been read. -/
inductive Expression where
  /-- Blank text, which constrains nothing. -/
  | empty
  | compare (c : Comparison)
  | all (parts : List Expression)
  | any (parts : List Expression)
  | unparsed (text reason : String)
  deriving Inhabited

def Comparison.chars (c : Comparison) : List Char :=
  c.name.toList ++ ' ' :: c.comparator.symbol.toList ++ ' ' :: decimal c.value.toInt

def Comparison.text (c : Comparison) : String := String.ofList c.chars

namespace Expression

/-- The conjunction of the parts; a single part stands for itself. -/
def allOf : List Expression → Expression
  | [e] => e
  | es => .all es

/-- The disjunction of the parts; a single part stands for itself. -/
def anyOf : List Expression → Expression
  | [e] => e
  | es => .any es

mutual

/-- Whether a leaf could not be read. -/
def hasUnparsed : Expression → Bool
  | .unparsed .. => true
  | .all parts => anyUnparsed parts
  | .any parts => anyUnparsed parts
  | _ => false

def anyUnparsed : List Expression → Bool
  | [] => false
  | e :: rest => hasUnparsed e || anyUnparsed rest

end

/-- Texts between parentheses with a separator between them. -/
def joined (separator : List Char) (texts : List (List Char)) : List Char :=
  '(' :: (texts.intersperse separator).flatten ++ [')']

mutual

/-- The expression written out, every part in parentheses. -/
def chars : Expression → List Char
  | .empty => ['t', 'r', 'u', 'e']
  | .compare c => '(' :: c.chars ++ [')']
  | .all parts => joined [' ', '&', '&', ' '] (charsAll parts)
  | .any parts => joined [' ', '|', '|', ' '] (charsAll parts)
  | .unparsed text _ => "<unparsed '".toList ++ text.toList ++ "'>".toList

def charsAll : List Expression → List (List Char)
  | [] => []
  | e :: rest => chars e :: charsAll rest

end

def text (e : Expression) : String := String.ofList e.chars

end Expression

end TransitionGuards
