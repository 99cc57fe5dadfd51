/-
  White space in guard text: the characters Unicode counts as `White_Space`,
  and cutting them off at the two ends of a text.
-/

namespace TransitionGuards

/-- Whether Unicode counts the character as `White_Space`. -/
def isBlank (c : Char) : Bool :=
  let n := c.toNat
  (0x09 ≤ n && n ≤ 0x0D) || n == 0x20 || n == 0x85 || n == 0xA0 || n == 0x1680 ||
    (0x2000 ≤ n && n ≤ 0x200A) || n == 0x2028 || n == 0x2029 || n == 0x202F || n == 0x205F || n == 0x3000

def allBlank (s : List Char) : Bool := s.all isBlank

def skipBlanks (s : List Char) : List Char := s.dropWhile isBlank

/-- The text without the blanks at its two ends. -/
def trim (s : List Char) : List Char := (skipBlanks (skipBlanks s).reverse).reverse

def trimText (s : String) : String := String.ofList (trim s.toList)

theorem length_skipBlanks_le (s : List Char) : (skipBlanks s).length ≤ s.length :=
  (List.dropWhile_sublist _).length_le

theorem length_trim_le (s : List Char) : (trim s).length ≤ s.length := by
  have front := length_skipBlanks_le s
  have back := length_skipBlanks_le (skipBlanks s).reverse
  rw [List.length_reverse] at back
  rw [trim, List.length_reverse]
  exact Nat.le_trans back front

end TransitionGuards
