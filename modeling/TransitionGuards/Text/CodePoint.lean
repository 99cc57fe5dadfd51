/-
  Sets of characters given as ascending ranges of code points, the form in
  which the tables of character classes are kept, and the length of text in
  UTF-8.
-/

namespace TransitionGuards

/-- The first and the last code point of a run of neighbours. -/
abbrev CodePointRange := Nat × Nat

def inRanges (ranges : List CodePointRange) (c : Char) : Bool :=
  ranges.any fun r => decide (r.1 ≤ c.toNat) && decide (c.toNat ≤ r.2)

def byteLength : List Char → Nat
  | [] => 0
  | c :: rest => c.utf8Size + byteLength rest

end TransitionGuards
