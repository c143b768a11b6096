import AirDump.Foundation.NumberText
import AirDump.Foundation.SingleFloat

namespace AirDump
namespace Foundation

/-!
# Two places after the point

The conversion `%.2f` of the C library rounds the exact value to hundredths,
to the nearest, and to the even neighbour when it is half-way between two.  It
prints the sign, the whole part and two digits, and fills the field with
spaces on the left up to its width.

The whole part of what is printed is compared with truncation.  The two differ
exactly when the part after the point is large enough to be rounded up to the
next whole number.
-/

/-- The nearest integer, the even one when there are two. -/
def nearestEven (number : Rat) : Int :=
  if number - ⌊number⌋ < 1 / 2 then ⌊number⌋
  else if 1 / 2 < number - ⌊number⌋ then ⌊number⌋ + 1
  else if ⌊number⌋ % 2 = 0 then ⌊number⌋
  else ⌊number⌋ + 1

theorem floor_le_nearestEven (number : Rat) : ⌊number⌋ ≤ nearestEven number := by
  unfold nearestEven
  split_ifs <;> omega

theorem nearestEven_le_floor_add_one (number : Rat) : nearestEven number ≤ ⌊number⌋ + 1 := by
  unfold nearestEven
  split_ifs <;> omega

/-- Rounding stays below a bound as long as the number stays below the middle
of the next step, or is that middle and the bound is even. -/
theorem nearestEven_le_iff (number : Rat) (bound : Int) :
    nearestEven number ≤ bound ↔
      number < bound + 1 / 2 ∨ (number = bound + 1 / 2 ∧ bound % 2 = 0) := by
  have low := Int.floor_le number
  have high := Int.lt_floor_add_one number
  rcases lt_trichotomy ⌊number⌋ bound with below | same | above
  · have far : ((⌊number⌋ + 1 : Int) : Rat) ≤ bound := Int.cast_le.mpr below
    push_cast at far
    exact iff_of_true ((nearestEven_le_floor_add_one number).trans below) (Or.inl (by linarith))
  · rw [← same]
    rcases lt_trichotomy (number - ⌊number⌋) (1 / 2) with small | middle | large
    · rw [nearestEven, if_pos small]
      exact iff_of_true (le_refl _) (Or.inl (by linarith))
    · rw [nearestEven, if_neg middle.not_lt, if_neg middle.not_gt]
      by_cases even : ⌊number⌋ % 2 = 0
      · rw [if_pos even]
        exact iff_of_true (le_refl _) (Or.inr ⟨by linarith, even⟩)
      · rw [if_neg even]
        refine iff_of_false (by omega) ?_
        rintro (less | ⟨_, other⟩)
        · linarith
        · exact even other
    · rw [nearestEven, if_neg large.not_gt, if_pos large]
      refine iff_of_false (by omega) ?_
      rintro (less | ⟨equal, _⟩) <;> linarith
  · have far : ((bound + 1 : Int) : Rat) ≤ ⌊number⌋ := Int.cast_le.mpr above
    push_cast at far
    refine iff_of_false ?_ ?_
    · have least := floor_le_nearestEven number
      omega
    · rintro (less | ⟨equal, _⟩) <;> linarith

/-- The hundredths of a number that is not negative. -/
def hundredths (number : Rat) : Nat :=
  (nearestEven (100 * number)).toNat

/-- The whole part survives the rounding, or the part after the point is
rounded up to the next whole number. -/
theorem hundredths_div (number : Rat) (positive : 0 ≤ number) :
    ((hundredths number / 100 : Nat) : Int) =
      if number - ⌊number⌋ < 199 / 200 then ⌊number⌋ else ⌊number⌋ + 1 := by
  have low := Int.floor_le number
  have high := Int.lt_floor_add_one number
  have whole : 0 ≤ ⌊number⌋ := Int.floor_nonneg.mpr positive
  have least : 100 * ⌊number⌋ ≤ nearestEven (100 * number) := by
    refine le_trans (Int.le_floor.mpr ?_) (floor_le_nearestEven (100 * number))
    push_cast
    linarith
  have most : nearestEven (100 * number) ≤ 100 * ⌊number⌋ + 100 := by
    rw [nearestEven_le_iff]
    left
    push_cast
    linarith
  have below : nearestEven (100 * number) ≤ 100 * ⌊number⌋ + 99 ↔
      number - ⌊number⌋ < 199 / 200 := by
    rw [nearestEven_le_iff]
    push_cast
    constructor
    · rintro (less | ⟨_, even⟩)
      · linarith
      · omega
    · intro less
      left
      linarith
  unfold hundredths
  split_ifs with less
  · have bound := below.mpr less
    omega
  · have bound := mt below.mp less
    omega

namespace SingleFloat

open Float.Model Float.Model.UnpackedFloat

/-! ## The text of a number -/

def signText : Sign -> List Char
  | .positive => []
  | .negative => ['-']

def hundredthsText (count : Nat) : List Char :=
  Nat.toDigits 10 (count / 100) ++
    ['.', Nat.digitChar (count / 10 % 10), Nat.digitChar (count % 10)]

/-- The text of `%.2f`, before the field is filled. -/
def fixedText (number : Float32) : List Char :=
  match number.toModel.unpack with
  | .notANumber => ['n', 'a', 'n']
  | .infinity sign => signText sign ++ ['i', 'n', 'f']
  | .zero sign => signText sign ++ hundredthsText 0
  | .finite sign mantissa exponent _ =>
      signText sign ++ hundredthsText (hundredths ((mantissa : Rat) * 2 ^ exponent))

/-- The text of `%.2f` with a field width. -/
def formatted (width : Nat) (number : Float32) : List Char :=
  List.replicate (width - (fixedText number).length) ' ' ++ fixedText number

/-- The whole number that a reader sees at the front of a text, behind spaces
and before a point. -/
def readWhole (text : List Char) : Int :=
  (NumberText.readInt (text.dropWhile (· == ' '))).1

theorem unpack_of_isFinite {number : Float32} (finite : number.isFinite = true) :
    (Exists fun sign : Sign => number.toModel.unpack = .zero sign) ∨
      Exists fun sign : Sign => Exists fun mantissa : Nat => Exists fun exponent : Int =>
        Exists fun positive : 0 < mantissa =>
          number.toModel.unpack = .finite sign mantissa exponent positive := by
  unfold Float32.isFinite Float32.Model.isFinite at finite
  cases unpacked : number.toModel.unpack with
  | notANumber =>
      rw [unpacked] at finite
      cases finite
  | infinity sign =>
      rw [unpacked] at finite
      cases finite
  | zero sign => exact Or.inl ⟨sign, rfl⟩
  | finite sign mantissa exponent positive =>
      exact Or.inr ⟨sign, mantissa, exponent, positive, rfl⟩

theorem exists_fixedText {number : Float32} (finite : number.isFinite = true) :
    Exists fun sign : Sign => Exists fun count : Nat =>
      fixedText number = signText sign ++ hundredthsText count := by
  rcases unpack_of_isFinite finite with ⟨sign, unpacked⟩ | ⟨sign, _, _, _, unpacked⟩
  · exact ⟨sign, 0, by rw [fixedText, unpacked]⟩
  · exact ⟨sign, _, by rw [fixedText, unpacked]⟩

theorem readInt_signText (sign : Sign) (count : Nat) (tail : List Char) :
    (NumberText.readInt (signText sign ++ hundredthsText count ++ tail)).1 =
      sign.apply ((count / 100 : Nat) : Int) := by
  have stops : NumberText.Stops
      (['.', Nat.digitChar (count / 10 % 10), Nat.digitChar (count % 10)] ++ tail) := by
    intro next first
    rw [← Option.some.inj first]
    decide
  cases sign with
  | positive =>
      rw [signText, List.nil_append, hundredthsText, List.append_assoc,
        NumberText.readInt_toDigits _ stops]
      rfl
  | negative =>
      rw [signText, hundredthsText, List.append_assoc, List.append_assoc, List.singleton_append,
        NumberText.readInt_minus _ stops]
      rfl

/-- The text of a number does not begin with a space. -/
theorem dropWhile_fixedText (sign : Sign) (count : Nat) (tail : List Char) :
    (signText sign ++ hundredthsText count ++ tail).dropWhile (· == ' ') =
      signText sign ++ hundredthsText count ++ tail := by
  cases sign with
  | negative => rfl
  | positive =>
      rw [signText, List.nil_append, hundredthsText, List.append_assoc]
      cases digits : Nat.toDigits 10 (count / 100) with
      | nil => exact absurd digits Nat.toDigits_ne_nil
      | cons first rest =>
          have member : first ∈ Nat.toDigits 10 (count / 100) := by
            rw [digits]
            exact List.mem_cons_self
          have digit := NumberText.isDigit_of_mem_toDigits member
          apply List.dropWhile_cons_of_neg
          intro space
          rw [eq_of_beq space] at digit
          exact absurd digit (by decide)

/-- Neither the spaces that fill the field nor what follows the number are
read. -/
theorem readWhole_formatted (width : Nat) {number : Float32} {sign : Sign} {count : Nat}
    (text : fixedText number = signText sign ++ hundredthsText count) (tail : List Char) :
    readWhole (formatted width number ++ tail) = sign.apply ((count / 100 : Nat) : Int) := by
  have spaces : forall space, space ∈ List.replicate
      (width - (fixedText number).length) ' ' -> (space == ' ') = true := by
    intro space member
    rw [List.eq_of_mem_replicate member]
    rfl
  rw [readWhole, formatted, List.append_assoc, List.dropWhile_append_of_pos spaces, text,
    dropWhile_fixedText, readInt_signText]

theorem readWhole_formatted_append (width : Nat) {number : Float32}
    (finite : number.isFinite = true) (tail : List Char) :
    readWhole (formatted width number ++ tail) = readWhole (formatted width number) := by
  rcases exists_fixedText finite with ⟨sign, count, text⟩
  have alone := readWhole_formatted width text []
  rw [List.append_nil] at alone
  rw [readWhole_formatted width text tail, alone]

/-- A number is printed with digits, spaces, a sign and a point. -/
theorem colon_not_mem_formatted (width : Nat) {number : Float32}
    (finite : number.isFinite = true) : ':' ∉ formatted width number := by
  rcases exists_fixedText finite with ⟨sign, count, text⟩
  have digits : forall digit : Nat, digit < 10 -> ':' ≠ Nat.digitChar digit := by
    decide
  intro member
  rw [formatted, text, hundredthsText] at member
  rcases List.mem_append.mp member with space | member
  · exact absurd (List.eq_of_mem_replicate space) (by decide)
  rcases List.mem_append.mp member with minus | member
  · cases sign with
    | positive => cases minus
    | negative => exact absurd (List.mem_singleton.mp minus) (by decide)
  rcases List.mem_append.mp member with digit | member
  · exact absurd (NumberText.isDigit_of_mem_toDigits digit) (by decide)
  simp only [List.mem_cons, List.not_mem_nil, or_false] at member
  rcases member with point | tens | units
  · exact absurd point (by decide)
  · exact digits _ (Nat.mod_lt _ (by decide)) tens
  · exact digits _ (Nat.mod_lt _ (by decide)) units

/-! ## The whole part against truncation -/

/-- The part after the binary point is not rounded up to a whole number. -/
def KeepsWhole (number : Float32) : Prop :=
  |value number - truncate number| < 199 / 200

/-- A finite number and its truncation have the same sign, and differ by the
part of the magnitude after the point. -/
theorem parts_of_finite {number : Float32} {sign : Sign} {mantissa : Nat} {exponent : Int}
    {positive : 0 < mantissa}
    (unpacked : number.toModel.unpack = .finite sign mantissa exponent positive) :
    truncate number = sign.apply ⌊(mantissa : Rat) * 2 ^ exponent⌋ ∧
      (KeepsWhole number ↔
        (mantissa : Rat) * 2 ^ exponent - ⌊(mantissa : Rat) * 2 ^ exponent⌋ < 199 / 200) := by
  have magnitude : (0 : Rat) < (mantissa : Rat) * 2 ^ exponent :=
    mul_pos (Nat.cast_pos.mpr positive) (zpow_pos two_pos exponent)
  have exact_value : value number =
      (sign.apply 1 : Int) * ((mantissa : Rat) * 2 ^ exponent) := by
    rw [value, unpacked]
  have after : (0 : Rat) ≤
      (mantissa : Rat) * 2 ^ exponent - ⌊(mantissa : Rat) * 2 ^ exponent⌋ :=
    sub_nonneg.mpr (Int.floor_le _)
  have whole := truncate_eq number
  rw [exact_value] at whole
  unfold KeepsWhole
  cases sign with
  | positive =>
      simp only [Sign.apply, Int.cast_one, one_mul] at exact_value whole ⊢
      rw [if_pos magnitude.le] at whole
      rw [whole, exact_value, abs_of_nonneg after]
      exact ⟨rfl, Iff.rfl⟩
  | negative =>
      simp only [Sign.apply, Int.cast_neg, Int.cast_one, neg_mul, one_mul] at exact_value whole ⊢
      rw [if_neg (not_le.mpr (neg_neg_iff_pos.mpr magnitude)), Int.ceil_neg] at whole
      rw [whole, exact_value, Int.cast_neg, neg_sub_neg, abs_sub_comm, abs_of_nonneg after]
      exact ⟨rfl, Iff.rfl⟩

/-- What is printed before the point, in terms of truncation: the same number,
or the next one away from zero. -/
theorem readWhole_cases (width : Nat) {number : Float32} (finite : number.isFinite = true) :
    (KeepsWhole number ∧ readWhole (formatted width number) = truncate number) ∨
      (¬ KeepsWhole number ∧
        ((0 ≤ truncate number ∧
            readWhole (formatted width number) = truncate number + 1) ∨
          (truncate number ≤ 0 ∧
            readWhole (formatted width number) = truncate number - 1))) := by
  have alone := fun item => List.append_nil (formatted width item)
  rcases unpack_of_isFinite finite with ⟨sign, unpacked⟩ | ⟨sign, mantissa, exponent, _, unpacked⟩
  · have text : fixedText number = signText sign ++ hundredthsText 0 := by
      rw [fixedText, unpacked]
    have none_left : value number = 0 := by
      rw [value, unpacked]
    have whole : truncate number = 0 := by
      rw [truncate, unpacked]
      rfl
    refine Or.inl ⟨?_, ?_⟩
    · rw [KeepsWhole, none_left, whole]
      norm_num
    · rw [← alone, readWhole_formatted width text, whole]
      cases sign <;> rfl
  · have magnitude : (0 : Rat) ≤ (mantissa : Rat) * 2 ^ exponent :=
      mul_nonneg (Nat.cast_nonneg mantissa) (zpow_nonneg two_pos.le exponent)
    have text : fixedText number =
        signText sign ++ hundredthsText (hundredths ((mantissa : Rat) * 2 ^ exponent)) := by
      rw [fixedText, unpacked]
    have parts := parts_of_finite unpacked
    have printed := hundredths_div _ magnitude
    have whole := Int.floor_nonneg.mpr magnitude
    rw [← alone, readWhole_formatted width text, printed, parts.1, parts.2]
    split_ifs with keeps
    · exact Or.inl ⟨keeps, rfl⟩
    · refine Or.inr ⟨keeps, ?_⟩
      cases sign with
      | positive => exact Or.inl ⟨whole, rfl⟩
      | negative =>
          refine Or.inr ⟨neg_nonpos.mpr whole, ?_⟩
          simp only [Sign.apply]
          omega

/-- The byte of a cast is the whole number that is printed exactly when the
truncation fits the byte and the printed number is not rounded up. -/
theorem readWhole_eq_byte_iff (undefinedByte : UInt8) (width : Nat) {number : Float32}
    (finite : number.isFinite = true) :
    ((staticCastUInt8 undefinedByte number).toNat : Int) =
        readWhole (formatted width number) ↔
      FitsByte number ∧ KeepsWhole number := by
  have fits := toNat_staticCastUInt8_eq_iff undefinedByte number finite
  have bound := (staticCastUInt8 undefinedByte number).toNat_lt
  constructor
  · intro same
    rcases readWhole_cases width finite with ⟨keeps, whole⟩ | ⟨_, up | down⟩
    · rw [whole] at same
      exact ⟨fits.mp same, keeps⟩
    · exfalso
      have inside : FitsByte number := ⟨finite, up.1, by omega⟩
      have byte := fits.mpr inside
      omega
    · omega
  · rintro ⟨inside, keeps⟩
    rcases readWhole_cases width finite with ⟨_, whole⟩ | ⟨rounds, _⟩
    · rw [fits.mpr inside, whole]
    · exact absurd keeps rounds

end SingleFloat

end Foundation
end AirDump
