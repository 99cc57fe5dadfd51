import TransitionGuards.Text.Decimal

/-
  The shortest decimal of a binary floating-point number: of all decimals
  that read back as the number one with the fewest digits, and of those the
  nearest. `shortest` finds its digits and its power of ten with exact
  arithmetic, `floatText` lays them out.
-/

namespace TransitionGuards

/-- The magnitude `significand * 2 ^ exponent` of a floating-point number.
`narrow` says that the next smaller number is half as far away as the next
larger one. -/
structure Magnitude where
  significand : Nat
  exponent : Int
  narrow : Bool

/-- The magnitude that the bits of a finite number encode. -/
def Magnitude.ofBits (bits : Nat) : Magnitude :=
  let fraction : Nat := bits % Nat.pow 2 52
  let biased : Nat := bits / Nat.pow 2 52 % Nat.pow 2 11
  if biased = 0 then ⟨fraction, -1074, false⟩
  else ⟨Nat.pow 2 52 + fraction, (biased : Int) - 1075, fraction == 0 && decide (1 < biased)⟩

structure Decimal where
  digits : Nat
  exponent : Int

namespace Magnitude

/-- The multiple of `10 ^ k` that reads back as the magnitude and lies nearest
to it, if there is one. Both ends of the interval that rounds to the magnitude
belong to it when the significand is even; a tie goes to the even multiple. -/
def onGrid (m : Magnitude) (k : Int) : Option Decimal :=
  let scale := Nat.pow 2 (m.exponent - 2).toNat * Nat.pow 10 (-k).toNat
  let step := Nat.pow 10 k.toNat * Nat.pow 2 (2 - m.exponent).toNat
  let value := 4 * m.significand * scale
  let low := (4 * m.significand - if m.narrow then 1 else 2) * scale
  let high := (4 * m.significand + 2) * scale
  let inside (c : Nat) : Bool :=
    if m.significand % 2 = 0 then decide (low ≤ c * step) && decide (c * step ≤ high)
    else decide (low < c * step) && decide (c * step < high)
  let below := value / step
  let above := below + 1
  match inside below, inside above with
  | true, true =>
    let shortfall := value - below * step
    let excess := above * step - value
    if shortfall < excess ∨ (shortfall = excess ∧ below % 2 = 0) then some ⟨below, k⟩ else some ⟨above, k⟩
  | true, false => some ⟨below, k⟩
  | false, true => some ⟨above, k⟩
  | false, false => none

/-- A power of ten above the magnitude. -/
def topExponent (m : Magnitude) : Int :=
  let bits : Int := (Nat.log2 (4 * m.significand + 2) : Int) + 1 + (m.exponent - 2)
  bits * 30103 / 100000 + 1

/-- The shortest decimal of a magnitude: the first hit on grids from coarse to
fine. Twenty grids reach beyond the seventeen digits that always suffice. -/
def shortest (m : Magnitude) : Decimal :=
  ((List.range 20).findSome? fun (i : Nat) => m.onGrid (m.topExponent - i)).getD ⟨0, 0⟩

end Magnitude

/-! ## Layout -/

/-- The exponents of the leading digit that are written positionally. -/
def positionalExponents : Int × Int := (-5, 15)

/-- Digits and the exponent of the leading one as a decimal: positional with a
point in it, or with an exponent that carries its sign. -/
def layout (ds : List Char) (leading : Int) : List Char :=
  if positionalExponents.1 ≤ leading ∧ leading ≤ positionalExponents.2 then
    if leading < 0 then '0' :: '.' :: List.replicate (-leading - 1).toNat '0' ++ ds
    else
      let whole := leading.toNat + 1
      let fraction := ds.drop whole
      ds.take whole ++ List.replicate (whole - ds.length) '0' ++ '.' :: (if fraction.isEmpty then ['0'] else fraction)
  else
    let mantissa := match ds with
      | [d] => [d]
      | d :: rest => d :: '.' :: rest
      | [] => []
    mantissa ++ 'e' :: (if leading < 0 then '-' else '+') :: digits leading.natAbs

def floatText (x : Float) : String :=
  let bits := x.toBits.toNat
  let sign := if bits / Nat.pow 2 63 = 1 then ['-'] else []
  let m := Magnitude.ofBits (bits % Nat.pow 2 63)
  let body :=
    if m.significand = 0 then ['0', '.', '0']
    else
      let d := m.shortest
      let ds := digits d.digits
      layout ds (d.exponent + ds.length - 1)
  String.ofList (sign ++ body)

end TransitionGuards
