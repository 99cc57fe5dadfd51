import TransitionGuards.Json.Document
import TransitionGuards.Text.Decimal

/-
  Numbers in JSON text: their grammar (`Numeral.read`) and their value
  (`Numeral.value`).

  An integer that 64 bits hold stays an integer. Any other number becomes a
  floating-point number in one multiplication or division: as many leading
  digits as 64 bits hold, times a power of ten. That is quick and not always
  the nearest number.
-/

namespace TransitionGuards

/-- A number as written, apart from its sign. -/
structure Numeral where
  whole : List Char
  fraction : List Char
  /-- Whether the exponent is negative, and its digits. -/
  exponent : Option (Bool × List Char)

/-- A non-empty run of digits and what follows it. -/
def readDigits (s : List Char) : Except Fault (List Char × List Char) :=
  match s.takeWhile Char.isDigit with
  | [] => .error (if s.isEmpty then .ended else .malformed)
  | ds => .ok (ds, s.dropWhile Char.isDigit)

theorem length_readDigits {s ds rest : List Char} (h : readDigits s = .ok (ds, rest)) :
    rest.length ≤ s.length := by
  unfold readDigits at h
  split at h
  · cases h
  · injection h with h
    injection h with _ h
    rw [← h]
    exact (List.dropWhile_sublist _).length_le

namespace Numeral

/-- The digits before the point: a zero stands alone. -/
def readWhole (s : List Char) : Except Fault (List Char × List Char) :=
  match s with
  | '0' :: c :: rest => if c.isDigit then .error .malformed else .ok (['0'], c :: rest)
  | s => readDigits s

theorem length_readWhole {s ds rest : List Char} (h : readWhole s = .ok (ds, rest)) :
    rest.length ≤ s.length := by
  unfold readWhole at h
  split at h
  · split at h
    · cases h
    · injection h with h
      injection h with _ h
      subst h
      simp
  · exact length_readDigits h

/-- The digits behind the point, if there is a point. -/
def readFraction (s : List Char) : Except Fault (List Char × List Char) :=
  match s with
  | '.' :: rest => readDigits rest
  | s => .ok ([], s)

theorem length_readFraction {s ds rest : List Char} (h : readFraction s = .ok (ds, rest)) :
    rest.length ≤ s.length := by
  unfold readFraction at h
  split at h
  · have := length_readDigits h
    simp only [List.length_cons]
    omega
  · injection h with h
    injection h with _ h
    subst h
    exact Nat.le_refl _

/-- The sign of an exponent; none counts as a plus. -/
def readSign : List Char → Bool × List Char
  | '-' :: rest => (true, rest)
  | '+' :: rest => (false, rest)
  | s => (false, s)

theorem length_readSign (s : List Char) : (readSign s).2.length ≤ s.length := by
  unfold readSign
  split <;> simp

def readExponent (s : List Char) : Except Fault (Option (Bool × List Char) × List Char) :=
  match s with
  | c :: rest =>
    if c = 'e' ∨ c = 'E' then
      match readDigits (readSign rest).2 with
      | .ok (ds, rest') => .ok (some ((readSign rest).1, ds), rest')
      | .error f => .error f
    else .ok (none, s)
  | [] => .ok (none, [])

theorem length_readExponent {s rest : List Char} {e : Option (Bool × List Char)}
    (h : readExponent s = .ok (e, rest)) : rest.length ≤ s.length := by
  unfold readExponent at h
  split at h
  · next c t =>
    split at h
    · split at h
      · next ds rest' hd =>
        injection h with h
        injection h with _ h
        subst h
        have h₁ := length_readDigits hd
        have h₂ := length_readSign t
        simp only [List.length_cons]
        omega
      · cases h
    · injection h with h
      injection h with _ h
      subst h
      exact Nat.le_refl _
  · injection h with h
    injection h with _ h
    subst h
    exact Nat.le_refl _

def read (s : List Char) : Except Fault (Numeral × List Char) :=
  match readWhole s with
  | .error f => .error f
  | .ok (whole, s) =>
    match readFraction s with
    | .error f => .error f
    | .ok (fraction, s) =>
      match readExponent s with
      | .error f => .error f
      | .ok (exponent, s) => .ok (⟨whole, fraction, exponent⟩, s)

theorem length_read {s rest : List Char} {n : Numeral} (h : read s = .ok (n, rest)) :
    rest.length ≤ s.length := by
  unfold read at h
  split at h
  · cases h
  · next h₁ =>
    split at h
    · cases h
    · next h₂ =>
      split at h
      · cases h
      · next h₃ =>
        injection h with h
        injection h with _ h
        subst h
        exact Nat.le_trans (length_readExponent h₃)
          (Nat.le_trans (length_readFraction h₂) (length_readWhole h₁))

end Numeral

/-! ## Value -/

/-- Digits taken into a significand of 64 bits, as long as they fit, and the
digits left over. -/
def takeDigits (significand : Nat) : List Char → Nat × List Char
  | [] => (significand, [])
  | c :: rest =>
    if maxUInt64 < significand * 10 + digitValue c then (significand, c :: rest)
    else takeDigits (significand * 10 + digitValue c) rest

def powerOfTen (n : Nat) : Float := Float.ofScientific 1 false n

/-- The largest exponent of ten that a floating-point number reaches. -/
def maxPower : Nat := 308

/-- The number divided by `10 ^ n`, in steps that a floating-point number can
hold. -/
def scaleDown (x : Float) (n : Nat) : Float :=
  if n ≤ maxPower then x / powerOfTen n
  else if x == 0 then x
  else scaleDown (x / powerOfTen maxPower) (n - maxPower)
termination_by n
decreasing_by simp only [maxPower] at *; omega

def scale (x : Float) (e : Int) : Option Float :=
  if e < 0 then some (scaleDown x e.natAbs)
  else if e.natAbs ≤ maxPower then
    let y := x * powerOfTen e.natAbs
    if y.isFinite then some y else none
  else if x == 0 then some x
  else none

/-- The bounds of the exponent of ten, which is kept in 32 bits. -/
def clampExponent (e : Int) : Int := max (-2147483648) (min 2147483647 e)

namespace Numeral

/-- The exponent of ten that the numeral states, `none` if 32 bits do not hold
it. -/
def stated (n : Numeral) : Option Int :=
  match n.exponent with
  | none => some 0
  | some (negative, ds) =>
    let e := digitsValue ds
    if 2147483647 < e then none else some (if negative then -e else e)

/-- The magnitude of the numeral as a floating-point number, `none` when it is
out of range. -/
def magnitude (n : Numeral) : Option Float :=
  let (significand, dropped) := takeDigits 0 n.whole
  let (significand, unused) := takeDigits significand n.fraction
  let shift : Int := (dropped.length : Int) - ((n.fraction.length : Int) - (unused.length : Int))
  let x := significand.toUInt64.toFloat
  match n.stated with
  | some e => scale x (clampExponent (shift + e))
  | none =>
    match n.exponent with
    | some (false, _) => if significand = 0 then some 0 else none
    | _ => some 0

/-- The number that the numeral is, with a minus sign before it if `negative`;
`none` when it is out of range. -/
def value (negative : Bool) (n : Numeral) : Option Number :=
  let real : Option Number := n.magnitude.bind fun x =>
    let y := if negative then -x else x
    if h : y.isFinite = true then some (.real y h) else none
  if n.fraction.isEmpty && n.exponent.isNone then
    let m := digitsValue n.whole
    if negative then
      if m = 0 ∨ Nat.pow 2 63 < m then real else some (.integer (-m))
    else if m ≤ maxUInt64 then some (.integer m) else real
  else real

end Numeral

end TransitionGuards
