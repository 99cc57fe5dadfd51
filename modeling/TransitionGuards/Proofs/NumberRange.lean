import Mathlib
import TransitionGuards.Json.Decode
import TransitionGuards.Proofs.Success

/-
  The numbers that documents hold.

  A document that was read from a text has no integers but those of 64 bits,
  with a sign or without (`Doc.fits_readValue`), whatever is cut off for being
  nested too deep. Such an integer is far from infinity when it is taken as a
  floating-point number (`isFinite_ofNat`): rounding adds one to the mantissa at
  most, and the exponent stays small.
-/

namespace TransitionGuards

/-! ## Large integers as floating-point numbers -/

namespace FiniteNumbers
open Float.Model Float.Model.UnpackedFloat

theorem mantissa_shiftRight_le (em : ExtendedMantissa) (n : Nat) : (em >>> n).mantissa ≤ em.mantissa := by
  induction n with
  | zero => exact Nat.le_refl _
  | succ n ih => exact Nat.le_trans (Nat.div_le_self ..) ih

theorem roundedMantissa_le (em : ExtendedMantissa) : em.roundedMantissa ≤ em.mantissa + 1 := by
  obtain ⟨m, round, sticky⟩ := em
  cases round <;> cases sticky <;>
    simp only [ExtendedMantissa.roundedMantissa, ExtendedMantissa.accuracy, Accuracy.roundToNearestEven] <;> omega

/-- What a shift leaves of a mantissa of so many bits, and the exponent that goes
with it. -/
theorem shift_bounds {mantissa bits : Nat} (exponent : Int) (pos : 0 < bits) (small : mantissa < 2 ^ bits) :
    (shiftToTargetExponent .binary64 mantissa exponent .exact).1.mantissa ≤ mantissa ∧
    (shiftToTargetExponent .binary64 mantissa exponent .exact).2 ≤
      max exponent (max (bits + exponent - 53) (-1074)) := by
  have log : mantissa.log2 < bits := by
    by_cases zero : mantissa = 0
    · rw [zero]
      exact pos
    · exact (Nat.log2_lt zero).2 small
  refine ⟨mantissa_shiftRight_le .., ?_⟩
  simp only [shiftToTargetExponent, shiftToExponent, Format.targetExponent, totalExponent, Format.mantissaBits,
    Format.minExponent]
  norm_num
  omega

theorem isFinite_unpack {b : BitVec Format.binary64.numBits} (h : unpackExponent b ≠ -1#_) :
    (UnpackedFloat.unpack .binary64 b).isFinite = true := by
  simp only [UnpackedFloat.unpack, if_neg h]
  split
  · split <;> rfl
  · rfl

theorem isFinite_pack_zero (sign : Sign) : (Float.Model.pack (.zero sign)).isFinite = true := by
  apply isFinite_unpack
  show unpackExponent (UnpackedFloat.pack .binary64 (.zero sign)) ≠ _
  rw [UnpackedFloat.pack, packedZero, unpackExponent_packComponents]
  decide

theorem isFinite_pack {sign : Sign} {mantissa : Nat} {exponent : Int} {pos : 0 < mantissa} (small : exponent < 972) :
    (Float.Model.pack (.finite sign mantissa exponent pos)).isFinite = true := by
  apply isFinite_unpack
  show unpackExponent (UnpackedFloat.pack .binary64 (.finite sign mantissa exponent pos)) ≠ _
  have bias : Format.exponentBias .binary64 = 1023 := rfl
  have fits : (exponent + Format.exponentBias .binary64 + (52 : Nat)).toNat + 1 < 2 ^ 11 := by omega
  simp only [UnpackedFloat.pack]
  rw [if_neg (by omega)]
  split
  · rw [unpackExponent_packComponents]
    intro same
    have top : (-1#11).toNat = 2 ^ 11 - 1 := by decide
    have biased := congrArg BitVec.toNat same
    rw [BitVec.toNat_ofNat, Nat.mod_eq_of_lt (by omega)] at biased
    omega
  · rw [unpackExponent_packComponents]
    decide

/-- A number without a large mantissa or a positive exponent stays finite when it
is rounded. -/
theorem isFinite_round {sign : Sign} {mantissa : Nat} {exponent : Int} (small : mantissa < 2 ^ 128)
    (low : exponent ≤ 0) :
    (Float.Model.pack (roundWithAccuracy .binary64 sign mantissa exponent .exact)).isFinite = true := by
  have first := shift_bounds exponent (by decide) small
  rw [roundWithAccuracy]
  generalize shiftToTargetExponent .binary64 mantissa exponent .exact = shifted at first ⊢
  -- rounding may carry into one more bit, and then the mantissa is shifted again
  have carried : shifted.1.roundedMantissa < 2 ^ 129 := by
    have := roundedMantissa_le shifted.1
    omega
  have second := shift_bounds shifted.2 (by decide) carried
  dsimp only
  split
  · exact isFinite_pack_zero sign
  · apply isFinite_pack
    omega

theorem ofScientific_integer {n : Nat} (pos : n ≠ 0) : UnpackedFloat.ofScientific .binary64 n 0 =
    roundWithAccuracy .binary64 (.positive * .positive) ((n <<< 53) * 10 ^ 0) (-53 + 0) .exact := by
  have noUnderflow : ¬(0 : Int) < -((2 ^ 11 : Int) + n.log2) := by omega
  rw [UnpackedFloat.ofScientific, dif_neg pos, if_neg (by decide), if_neg noUnderflow, if_pos (by decide)]
  rw [UnpackedFloat.mul]
  rfl

theorem isFinite_ofNat {n : Nat} (large : 2 ^ 53 ≤ n) (small : n < 2 ^ 64) : (Float.ofNat n).isFinite = true := by
  have model : Float.ofNat n = .ofModel (Float.Model.ofScientific n 0) := by
    show Float.ofScientific n false 0 = _
    rw [Float.ofScientific, dif_neg (by omega)]
    rfl
  rw [model]
  show (Float.Model.pack (UnpackedFloat.ofScientific .binary64 n 0)).isFinite = true
  rw [ofScientific_integer (by omega)]
  apply isFinite_round
  · rw [Nat.shiftLeft_eq]
    omega
  · decide

end FiniteNumbers

/-! ## Integers of documents -/

/-- The integers that are kept as such: those of 64 bits, signed or unsigned. -/
def Number.Fits : Number → Prop
  | .integer n => -2 ^ 63 ≤ n ∧ n < 2 ^ 64
  | .real .. => True

mutual

def Doc.Fits : Doc → Prop
  | .number n => n.Fits
  | .array items => items.Fits
  | .object members => members.Fits
  | _ => True

def Items.Fits : Items → Prop
  | .item value rest => value.Fits ∧ rest.Fits
  | _ => True

def Members.Fits : Members → Prop
  | .member _ value rest => value.Fits ∧ rest.Fits
  | _ => True

end

theorem Numeral.fits_value {negative : Bool} {numeral : Numeral} {n : Number} (h : numeral.value negative = some n) :
    n.Fits := by
  -- a real number fits whatever it is; only the integers have a range to keep to
  have real : ∀ {x : Option Float} {f : Float → Float},
      (x.bind fun x => if h : (f x).isFinite = true then some (.real (f x) h) else none) = some n → n.Fits := by
    intro x f h
    obtain ⟨y, _, h⟩ := Option.bind_eq_some_iff.1 h
    split at h
    · cases h
      trivial
    · cases h
  rw [value] at h
  split at h
  · dsimp only at h
    split at h
    · split at h
      · exact real h
      · next range =>
        cases h
        rw [not_or] at range
        constructor
        · have := range.2
          simp only [Nat.pow_eq] at this
          omega
        · omega
    · split at h
      · next range =>
        cases h
        simp only [maxUInt64] at range
        constructor <;> omega
      · exact real h
  · exact real h

namespace Doc

theorem fits_readString (halved : Bool) (read s : List Char) : (readString halved read s).1.Fits := by
  fun_induction readString halved read s with
  | case2 halved => cases halved <;> trivial
  -- behind an escape or any other character the rest of the string decides
  | case4 _ _ _ _ _ _ _ _ _ _ rest ih => rwa [rest] at ih
  | case6 _ _ _ _ _ _ _ _ _ _ rest ih => rwa [rest] at ih
  | case9 _ _ _ _ _ _ _ _ _ _ _ _ rest ih => rwa [rest] at ih
  | _ => trivial

theorem fits_readConstant (word : List Char) (value : Doc) (h : value.Fits) (s : List Char) :
    (readConstant word value s).1.Fits := by
  rw [readConstant]
  split
  · exact h
  · trivial

theorem fits_readNumber (negative : Bool) (s : List Char) : (readNumber negative s).1.Fits := by
  rw [readNumber]
  split
  · dsimp only
    split
    · next h => exact Numeral.fits_value h
    · trivial
  · trivial

theorem length_lt_of_skipSpace {s rest : List Char} {c : Char} (h : skipSpace s = c :: rest) :
    rest.length < s.length := by
  have := length_skipSpace_le s
  rw [h, List.length_cons] at this
  omega

mutual

theorem fits_readValue (s : List Char) : (readValue s).1.Fits := by
  rw [readValue]
  split
  · trivial
  · next c rest h =>
    have shorter := length_lt_of_skipSpace h
    dsimp only
    split
    · exact fits_readItems rest
    split
    · exact fits_readMembers rest
    split
    · exact fits_readString false [] rest
    split
    · exact fits_readConstant _ .null trivial (c :: rest)
    split
    · exact fits_readConstant _ (.bool true) trivial (c :: rest)
    split
    · exact fits_readConstant _ (.bool false) trivial (c :: rest)
    split
    · exact fits_readNumber true rest
    split
    · exact fits_readNumber false (c :: rest)
    · trivial
termination_by 4 * s.length + 0

theorem fits_readItems (s : List Char) : (readItems s).1.Fits := by
  rw [readItems]
  split
  · trivial
  · trivial
  · have shorter := (readValue s).2.2
    exact ⟨fits_readValue s, fits_readMoreItems (readValue s).2.1⟩
termination_by 4 * s.length + 2

theorem fits_readMoreItems (s : List Char) : (readMoreItems s).1.Fits := by
  rw [readMoreItems]
  split
  · trivial
  · next c rest h =>
    have shorter := length_lt_of_skipSpace h
    dsimp only
    split
    · trivial
    split
    · have left := (readValue rest).2.2
      exact ⟨fits_readValue rest, fits_readMoreItems (readValue rest).2.1⟩
    · trivial
termination_by 4 * s.length + 1

theorem fits_readMembers (s : List Char) : (readMembers s).1.Fits := by
  rw [readMembers]
  split
  · trivial
  · trivial
  · exact fits_readMember s
termination_by 4 * s.length + 2

theorem fits_readMember (s : List Char) : (readMember s).1.Fits := by
  rw [readMember]
  split
  · trivial
  · next c rest h =>
    have shorter := length_lt_of_skipSpace h
    dsimp only
    split
    · have left := (readString false [] rest).2.2
      split
      · next r h₂ =>
        have shorter₂ : r.length < s.length :=
          Nat.lt_of_lt_of_le (length_lt_of_skipSpace h₂) (Nat.le_trans left (Nat.le_of_lt shorter))
        have left₂ : (readValue r).2.1.length < s.length := Nat.lt_of_le_of_lt (readValue r).2.2 shorter₂
        exact ⟨fits_readValue r, fits_readMoreMembers (readValue r).2.1⟩
      · trivial
      · trivial
    · trivial
termination_by 4 * s.length + 1

theorem fits_readMoreMembers (s : List Char) : (readMoreMembers s).1.Fits := by
  rw [readMoreMembers]
  split
  · trivial
  · next c rest h =>
    have shorter := length_lt_of_skipSpace h
    dsimp only
    split
    · trivial
    split
    · exact fits_readMember rest
    · trivial
termination_by 4 * s.length + 0

end

mutual

theorem fits_limitNesting : ∀ (room : Nat) {doc : Doc}, doc.Fits → (doc.limitNesting room).Fits
  | _, .null, h | _, .bool _, h | _, .number _, h | _, .string _, h | _, .invalid .., h => h
  | 0, .array _, _ | 0, .object _, _ => trivial
  | room + 1, .array items, h => fits_limitItems room (show items.Fits from h)
  | room + 1, .object members, h => fits_limitMembers room (show members.Fits from h)

theorem fits_limitItems : ∀ (room : Nat) {items : Items}, items.Fits → (limitItems room items).Fits
  | _, .closed, h | _, .cut _, h => h
  | room, .item _ _, h => ⟨fits_limitNesting room h.1, fits_limitItems room h.2⟩

theorem fits_limitMembers : ∀ (room : Nat) {members : Members}, members.Fits → (limitMembers room members).Fits
  | _, .closed, h | _, .cut _, h | _, .badKey _, h => h
  | room, .member .., h => ⟨fits_limitNesting room h.1, fits_limitMembers room h.2⟩

end

end Doc

/-- What is decoded of a text is decoded from a document whose integers fit. -/
theorem exists_fits_of_decodeText {α : Type} {decode : Decode α} {text : String} {a : α}
    (h : decodeText decode text = .ok a) : ∃ doc : Doc, doc.Fits ∧ decode doc = .ok a := by
  refine ⟨(Doc.ofText text).root.limitNesting Doc.maxNesting, Doc.fits_limitNesting _ (Doc.fits_readValue _), ?_⟩
  rw [decodeText, Doc.Text.decode] at h
  obtain ⟨b, decoded, h⟩ := exists_of_bind_ok h
  split at h
  · cases h
  · cases h
    exact decoded

end TransitionGuards
