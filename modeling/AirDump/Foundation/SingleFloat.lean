import Mathlib.Data.Rat.Floor

namespace AirDump
namespace Foundation
namespace SingleFloat

open Float.Model Float.Model.UnpackedFloat

/-!
# Truncation of a single-precision number, and its cast to one byte

The numbers are the binary32 values of the language itself, unpacked into a
sign, a natural mantissa and a power of two.  Truncation discards the part
after the binary point, and is shown here to be rounding toward zero of the
exact rational value.

A cast to an unsigned byte keeps a truncation that the byte can represent.
For every other number the language leaves the result undefined, so the byte
that then appears is an argument of the cast and not a result of it.
-/

/-! ## The exact value and its truncation -/

/-- The exact rational value of a finite number.  Not-a-number and the two
infinities have none, and are sent to zero. -/
def value (number : Float32) : Rat :=
  match number.toModel.unpack with
  | .finite sign mantissa exponent _ =>
      (sign.apply 1 : Int) * ((mantissa : Rat) * 2 ^ exponent)
  | _ => 0

/-- The number without its part after the binary point.  Not-a-number and the
two infinities have no truncation, and are sent to zero. -/
def truncate (number : Float32) : Int :=
  number.toModel.unpack.toInt 0 0

/-- Shifting an extended mantissa to the right divides it by a power of two. -/
private theorem shiftRight_mantissa (extended : ExtendedMantissa) (amount : Nat) :
    (extended >>> amount).mantissa = extended.mantissa / 2 ^ amount := by
  induction amount with
  | zero =>
      rw [Nat.pow_zero, Nat.div_one]
      rfl
  | succ amount inductionHypothesis =>
      change (extended >>> amount).mantissa / 2 = _
      rw [inductionHypothesis, Nat.div_div_eq_div_mul, Nat.pow_succ]

/-- The two shifts together multiply or divide by a power of two.  At most one
of the two exponents is positive. -/
private theorem roundToInt_eq (sign : Sign) (mantissa : Nat) (exponent : Int) :
    roundToInt sign mantissa exponent =
      sign.apply ((mantissa * 2 ^ exponent.toNat / 2 ^ (-exponent).toNat : Nat) : Int) := by
  have shifted : (0 - (exponent - (exponent.toNat : Int))).toNat = (-exponent).toNat := by
    omega
  simp only [roundToInt, decreaseExponent, shiftToExponent, shiftRight_mantissa,
    ExtendedMantissa.ofMantissaAndAccuracy, Nat.shiftLeft_eq, Int.sub_zero, shifted]

/-- The shifted mantissa is the floor of the exact magnitude. -/
private theorem floor_magnitude (mantissa : Nat) (exponent : Int) :
    ⌊(mantissa : Rat) * 2 ^ exponent⌋ =
      ((mantissa * 2 ^ exponent.toNat / 2 ^ (-exponent).toNat : Nat) : Int) := by
  have power : (2 : Rat) ^ exponent =
      ((2 ^ exponent.toNat : Nat) : Rat) / ((2 ^ (-exponent).toNat : Nat) : Rat) := by
    have split : exponent = (exponent.toNat : Int) - ((-exponent).toNat : Int) := by
      omega
    push_cast
    nth_rewrite 1 [split]
    rw [zpow_sub₀ (by decide), zpow_natCast, zpow_natCast]
  rw [power, ← mul_div_assoc, ← Nat.cast_mul, Rat.floor_natCast_div_natCast]
  exact (Int.natCast_ediv _ _).symm

/-- Truncation is rounding of the exact value toward zero. -/
theorem truncate_eq (number : Float32) :
    truncate number = if 0 ≤ value number then ⌊value number⌋ else ⌈value number⌉ := by
  unfold truncate value
  cases number.toModel.unpack with
  | notANumber => rfl
  | infinity sign => cases sign <;> rfl
  | zero sign => rfl
  | finite sign mantissa exponent positive =>
      have magnitude : (0 : Rat) < (mantissa : Rat) * 2 ^ exponent :=
        mul_pos (Nat.cast_pos.mpr positive) (zpow_pos two_pos exponent)
      have rounded : (UnpackedFloat.finite sign mantissa exponent positive).toInt 0 0 =
          roundToInt sign mantissa exponent := rfl
      rw [rounded, roundToInt_eq]
      cases sign with
      | positive =>
          simp only [Sign.apply, Int.cast_one, one_mul]
          rw [if_pos magnitude.le, floor_magnitude]
      | negative =>
          simp only [Sign.apply, Int.cast_neg, Int.cast_one, neg_mul, one_mul]
          rw [if_neg (not_le.mpr (neg_neg_iff_pos.mpr magnitude)), Int.ceil_neg, floor_magnitude]

/-! ## The cast to an unsigned byte -/

/-- The truncation exists and one unsigned byte can represent it. -/
def FitsByte (number : Float32) : Prop :=
  number.isFinite = true ∧ 0 ≤ truncate number ∧ truncate number ≤ 255

instance (number : Float32) : Decidable (FitsByte number) :=
  inferInstanceAs (Decidable (_ ∧ _))

/-- The cast of a number to `uint8_t`.  The language says nothing about a
number whose truncation the byte cannot represent, so what appears in that
case is supplied from outside. -/
def staticCastUInt8 (undefinedByte : UInt8) (number : Float32) : UInt8 :=
  if FitsByte number then UInt8.ofNat (truncate number).toNat else undefinedByte

theorem isFinite_of_not (number : Float32) (notNaN : number.isNaN = false)
    (notInf : number.isInf = false) : number.isFinite = true := by
  unfold Float32.isNaN Float32.isInf Float32.isFinite at *
  unfold Float32.Model.isNaN Float32.Model.isInf Float32.Model.isFinite at *
  cases unpacked : number.toModel.unpack with
  | notANumber =>
      rw [unpacked] at notNaN
      cases notNaN
  | infinity sign =>
      rw [unpacked] at notInf
      cases notInf
  | zero sign => rfl
  | finite sign mantissa exponent positive => rfl

/-- The byte is the truncation, read as a number, exactly when it fits.  No
choice of the undefined byte can repair a number outside the range. -/
theorem toNat_staticCastUInt8_eq_iff (undefinedByte : UInt8) (number : Float32)
    (finite : number.isFinite = true) :
    ((staticCastUInt8 undefinedByte number).toNat : Int) = truncate number ↔
      FitsByte number := by
  constructor
  · intro same
    have bound := (staticCastUInt8 undefinedByte number).toNat_lt
    exact ⟨finite, by omega, by omega⟩
  · intro fits
    have bounds := fits.2
    have small : (truncate number).toNat < 256 := by omega
    rw [staticCastUInt8, if_pos fits, UInt8.toNat_ofNat', Nat.mod_eq_of_lt small]
    omega

end SingleFloat
end Foundation
end AirDump
