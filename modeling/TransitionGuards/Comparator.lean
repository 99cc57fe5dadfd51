/-
  The six comparisons a guard may write between a variable and a constant,
  over signed 64-bit integers: what each one means (`holds`), how it is
  written in guard text (`symbol`) and how it is named in documents
  (`name`, and the names accepted on reading, `names`).
-/

namespace TransitionGuards

/-- A comparison between two integers. -/
inductive Comparator where
  | eq | ne | gt | ge | lt | le
  deriving DecidableEq, Repr, Inhabited

namespace Comparator

/-- Whether `lhs` stands in the relation to `rhs`. -/
def holds : Comparator → Int64 → Int64 → Bool
  | .eq, lhs, rhs => lhs == rhs
  | .ne, lhs, rhs => lhs != rhs
  | .gt, lhs, rhs => decide (rhs < lhs)
  | .ge, lhs, rhs => decide (rhs ≤ lhs)
  | .lt, lhs, rhs => decide (lhs < rhs)
  | .le, lhs, rhs => decide (lhs ≤ rhs)

/-- The comparator as guard text writes it. -/
def symbol : Comparator → String
  | .eq => "=="
  | .ne => "!="
  | .gt => ">"
  | .ge => ">="
  | .lt => "<"
  | .le => "<="

/-- The comparator as documents name it. -/
def name : Comparator → String
  | .eq => "equals"
  | .ne => "not_equals"
  | .gt => "greater_than"
  | .ge => "greater_or_equal"
  | .lt => "less_than"
  | .le => "less_or_equal"

/-- Every name a document may use, in the order a complaint lists them: each
comparator has a long and a short one. -/
def names : List (String × Comparator) :=
  [("eq", .eq), ("equals", .eq), ("ne", .ne), ("not_equals", .ne),
   ("greater_than", .gt), ("gt", .gt), ("ge", .ge), ("greater_or_equal", .ge),
   ("less_than", .lt), ("lt", .lt), ("le", .le), ("less_or_equal", .le)]

def ofSymbol? (symbol : String) : Option Comparator :=
  [.eq, .ne, .gt, .ge, .lt, .le].find? (·.symbol == symbol)

end Comparator

end TransitionGuards
