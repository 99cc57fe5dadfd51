import TransitionGuards.Guard
import TransitionGuards.Hash.Blake3
import TransitionGuards.Text.Decimal

/-
  The integer that a condition value stands for. Solving knows integers only,
  so booleans become one and zero, fractions are cut off, and a text that is no
  integer gets a code between 0 and 9999 from its hash: equal texts have
  equal codes.
-/

namespace TransitionGuards

/-- Codes of texts are below this number. -/
def textCodeBound : Nat := 10000

/-- The code of a text that is no integer. -/
def textCode (s : String) : Int64 :=
  Int64.ofNat ((Blake3.hashStart s.toUTF8.toList).toNat % textCodeBound)

/-- The integer that a text is, blanks around it put aside, or else its code. -/
def textValue (s : String) : Int64 :=
  match (signedDecimal? (trim s.toList)).bind int64? with
  | some v => v
  | none => textCode s

/-- The integer that the value stands for. A number with a fraction is cut
toward zero; beyond 64 bits it is the nearest integer that there is, and what
is not a number is zero. -/
def ConditionValue.code : ConditionValue → Int64
  | .bool b => if b then 1 else 0
  | .integer v => v
  | .float x => x.toInt64
  | .text s => textValue s
  | .other _ => 0

/-- The integer that the field is compared with; no value counts as zero. -/
def FieldCondition.code (c : FieldCondition) : Int64 :=
  match c.value with
  | none => 0
  | some v => v.code

end TransitionGuards
