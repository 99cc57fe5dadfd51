/-
  Decimal notation of integers: the digits of a number, the number digits
  stand for, and the 64-bit integers among the numbers.
-/

namespace TransitionGuards

/-- The digit that stands for `d`, for `d` below ten. -/
def digitChar (d : Nat) : Char := Char.ofNat (48 + d)

def digitValue (c : Char) : Nat := c.toNat - 48

/-- The decimal digits of a number, without leading zeros. -/
def digits (n : Nat) : List Char :=
  if n < 10 then [digitChar n] else digits (n / 10) ++ [digitChar (n % 10)]

/-- The number that a run of digits stands for; leading zeros change nothing. -/
def digitsValue (s : List Char) : Nat := s.foldl (fun n c => n * 10 + digitValue c) 0

/-- Whether the text is a non-empty run of digits. -/
def isDigits (s : List Char) : Bool := !s.isEmpty && s.all Char.isDigit

/-- An integer in decimal, a minus sign before it if it is negative. -/
def decimal : Int → List Char
  | .ofNat n => digits n
  | .negSucc n => '-' :: digits (n + 1)

def decimalText (n : Int) : String := String.ofList (decimal n)

/-- The 64-bit signed integer equal to `n`, if there is one. -/
def int64? (n : Int) : Option Int64 :=
  if Int64.minValue.toInt ≤ n ∧ n ≤ Int64.maxValue.toInt then some (Int64.ofInt n) else none

def maxUInt64 : Nat := 18446744073709551615

/-- The integer that the text is, written with an optional sign of either
kind before its digits. -/
def signedDecimal? : List Char → Option Int
  | '-' :: s => if isDigits s then some (-(digitsValue s : Int)) else none
  | '+' :: s => if isDigits s then some (digitsValue s) else none
  | s => if isDigits s then some (digitsValue s) else none

end TransitionGuards
