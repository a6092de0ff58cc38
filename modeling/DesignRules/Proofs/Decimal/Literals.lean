/-
**Decimal numbers as the nearest binary64 ones.**

A decimal number is divided as it stands where both of its parts are numbers of their own, and is
rounded from its digits otherwise. Either way the result is the number nearest to it, the even one
of two. What lies beyond the largest number becomes infinite once it is nearer to the number that
would follow.

* `reach`, `IsNearest`: the place of a number, and the number nearest to a rational one.
* `unpack_pack`, `RoundsTo.unpack_pack`: what packing keeps, and what is too large for it.
* `RoundsTo.isNearest`: what is rounded and packed is nearest.
* `exists_roundsTo_ofScientific`: decimal numbers without a sign.
* `IsSigned`, `IsNearest.neg`, `Literal.isSigned_value`: decimal numbers with a sign.
-/

import DesignRules.Decimal.Literal
import DesignRules.Proofs.Decimal.Nearest

namespace DesignRules.Decimal

open Float.Model (UnpackedFloat)
open Float.Model.UnpackedFloat (Sign pack packComponents packedInfinity unpackExponent)

/-! ### The nearest number -/

/-- The place of an unpacked number among the rational ones. Infinity stands where the number after
the largest one would be, and what is no number has no place. -/
def unpackedReach : UnpackedFloat → ℚ
  | .infinity sign => signSide sign * 2 ^ 1024
  | .finite sign mantissa exponent _ => signSide sign * (mantissa * 2 ^ exponent)
  | .zero _ => 0
  | .notANumber => 0

/-- Whether the last bit of an unpacked number is zero. -/
def IsEven : UnpackedFloat → Prop
  | .finite _ mantissa _ _ => mantissa % 2 = 0
  | _ => True

/-- The place of a number. -/
def reach (a : Float) : ℚ := unpackedReach a.toModel.unpack

/-- Whether a number is the one to which a rational number is rounded: none is nearer, and if
another one is as near, this is the one with an even mantissa. -/
structure IsNearest (x : ℚ) (a : Float) : Prop where
  number : Scalar.isNaN a = false
  le : ∀ b, Scalar.isNaN b = false → |x - reach a| ≤ |x - reach b|
  eq_or_even : ∀ b, Scalar.isNaN b = false → |x - reach a| = |x - reach b| →
    reach b = reach a ∨ IsEven a.toModel.unpack

/-! ### Packed numbers -/

/-- Whether the exponent of an unpacked number can be packed. -/
def IsBounded : UnpackedFloat → Prop
  | .finite _ _ exponent _ => exponent ≤ 971
  | _ => True

theorem isBounded_unpack (a : Float.Model) : IsBounded a.unpack := by
  show IsBounded (UnpackedFloat.unpack .binary64 a.toBits.toBitVec)
  unfold UnpackedFloat.unpack
  dsimp only
  split
  · split <;> trivial
  rename_i finite
  generalize (unpackExponent a.toBits.toBitVec :
    BitVec Float.Model.Format.binary64.exponentBits) = field at finite
  have size : field.toNat < 2048 := field.isLt
  have below : field.toNat ≠ 2047 := fun largest => finite (BitVec.eq_of_toNat_eq largest)
  split
  · rename_i zero
    split
    · trivial
    · rw [zero]
      show ((0 : Nat) : Int) - (1023 + 52) + 1 ≤ 971
      decide
  · show (field.toNat : Int) - (1023 + 52) ≤ 971
    omega

theorem pack_finite (sign : Sign) (mantissa : Nat) (exponent : Int) (positive : 0 < mantissa) :
    pack .binary64 (.finite sign mantissa exponent positive) =
      if 2 ^ 11 ≤ (exponent + 1075).toNat + 1 then packedInfinity .binary64 sign
      else if mantissa.log2 + 1 = 53 then
        packComponents .binary64 sign (BitVec.ofNat 11 (exponent + 1075).toNat)
          (BitVec.ofNat 52 mantissa)
      else packComponents .binary64 sign 0#11 (BitVec.ofNat 52 mantissa) := by
  have biased : exponent + 1075 = exponent + (1023 : Nat) + (52 : Nat) := by omega
  rw [biased]
  rfl

/-- Parts whose exponent is neither the least nor the largest one are those of a full mantissa. -/
theorem unpack_packComponents_full {sign : Sign} {field mantissa : Nat} {exponent : Int}
    {positive : 0 < mantissa} (low : 1 ≤ field) (high : field ≤ 2046)
    (bits : mantissa < 2 ^ 53) (full : 2 ^ 52 ≤ mantissa) (place : exponent = field - 1075) :
    UnpackedFloat.unpack .binary64
        (packComponents .binary64 sign (BitVec.ofNat 11 field) (BitVec.ofNat 52 mantissa)) =
      .finite sign mantissa exponent positive := by
  have size : (BitVec.ofNat 11 field).toNat = field := by
    rw [BitVec.toNat_ofNat]
    omega
  have notLargest : BitVec.ofNat 11 field ≠ -1#11 := fun same => by
    have largest := congrArg BitVec.toNat same
    rw [size] at largest
    have top : (-1#11).toNat = 2047 := rfl
    omega
  have notLeast : BitVec.ofNat 11 field ≠ 0#11 := fun same => by
    have least := congrArg BitVec.toNat same
    rw [size] at least
    have bottom : (0#11).toNat = 0 := rfl
    omega
  have whole : (1#1 ++ BitVec.ofNat 52 mantissa).toNat = mantissa := by
    rw [BitVec.toNat_append, ← Nat.shiftLeft_add_eq_or_of_lt (BitVec.isLt _), Nat.shiftLeft_eq,
      BitVec.toNat_ofNat]
    show 1 * 2 ^ 52 + mantissa % 2 ^ 52 = mantissa
    omega
  unfold UnpackedFloat.unpack
  simp only [UnpackedFloat.unpackMantissa_packComponents,
    UnpackedFloat.unpackExponent_packComponents, UnpackedFloat.unpackSign_packComponents,
    Sign.ofBitVec_toBitVec]
  rw [if_neg notLargest, if_neg notLeast]
  congr 1
  rw [size, place]
  rfl

/-- Parts whose exponent is the least one are those of a mantissa in the last place. -/
theorem unpack_packComponents_last {sign : Sign} {mantissa : Nat} {positive : 0 < mantissa}
    (bits : mantissa < 2 ^ 52) :
    UnpackedFloat.unpack .binary64
        (packComponents .binary64 sign 0#11 (BitVec.ofNat 52 mantissa)) =
      .finite sign mantissa (-1074) positive := by
  have size : (BitVec.ofNat 52 mantissa).toNat = mantissa := by
    rw [BitVec.toNat_ofNat, Nat.mod_eq_of_lt bits]
  have nonzero : BitVec.ofNat 52 mantissa ≠ 0#52 := fun same => by
    have zero := congrArg BitVec.toNat same
    rw [size] at zero
    exact positive.ne' zero
  unfold UnpackedFloat.unpack
  simp only [UnpackedFloat.unpackMantissa_packComponents,
    UnpackedFloat.unpackExponent_packComponents, UnpackedFloat.unpackSign_packComponents,
    Sign.ofBitVec_toBitVec]
  rw [if_neg (by decide), if_pos trivial, dif_neg nonzero]
  congr 1

/-- **Packing** keeps a number whose exponent fits. -/
theorem unpack_pack {a : UnpackedFloat} (canonical : IsCanonical a) (bounded : IsBounded a) :
    (Float.Model.pack a).unpack = a := by
  show UnpackedFloat.unpack .binary64 (pack .binary64 a) = a
  cases a with
  | notANumber => rfl
  | infinity sign => cases sign <;> rfl
  | zero sign => cases sign <;> rfl
  | finite sign mantissa exponent positive =>
    obtain ⟨bits, least, full⟩ := canonical
    replace bounded : exponent ≤ 971 := bounded
    rw [pack_finite, if_neg (by omega)]
    by_cases large : 2 ^ 52 ≤ mantissa
    · have width : mantissa.log2 + 1 = 53 := by
        rw [(Nat.log2_eq_iff positive.ne').mpr ⟨large, bits⟩]
      rw [if_pos width]
      exact unpack_packComponents_full (by omega) (by omega) bits large (by omega)
    · obtain rfl := full.resolve_left large
      have width : mantissa.log2 + 1 ≠ 53 := by
        have small := (Nat.log2_lt positive.ne').mpr (not_le.mp large)
        omega
      rw [if_neg width]
      exact unpack_packComponents_last (not_le.mp large)

/-- A number whose exponent does not fit becomes infinite. -/
theorem unpack_pack_overflow {sign : Sign} {mantissa : Nat} {exponent : Int}
    {positive : 0 < mantissa} (large : 971 < exponent) :
    (Float.Model.pack (.finite sign mantissa exponent positive)).unpack = .infinity sign := by
  show UnpackedFloat.unpack .binary64 (pack .binary64 _) = _
  rw [pack_finite, if_pos (by omega)]
  cases sign <;> rfl

/-! ### Places -/

theorem signSide_negative_mul (size : ℚ) : (signSide .negative : ℚ) * size = -size := by
  show ((-1 : Int) : ℚ) * size = -size
  rw [Int.cast_neg, Int.cast_one, neg_one_mul]

theorem signSide_positive_mul (size : ℚ) : (signSide .positive : ℚ) * size = size := by
  show ((1 : Int) : ℚ) * size = size
  rw [Int.cast_one, one_mul]

theorem onGrid_unpackedReach {a : UnpackedFloat} (canonical : IsCanonical a) :
    OnGrid (unpackedReach a) := by
  cases a with
  | notANumber => exact ⟨0, 0, by decide, by decide, by simp [unpackedReach]⟩
  | zero sign => exact ⟨0, 0, by decide, by decide, by simp [unpackedReach]⟩
  | infinity sign =>
    exact ⟨signSide sign, 1024, by cases sign <;> decide, by decide, rfl⟩
  | finite sign mantissa exponent positive =>
    obtain ⟨bits, least, -⟩ := canonical
    refine ⟨signSide sign * mantissa, exponent, ?_, least, ?_⟩
    · have unit : |signSide sign| = 1 := by cases sign <;> rfl
      rw [abs_mul, unit, one_mul, Nat.abs_cast]
      exact_mod_cast bits
    · rw [Int.cast_mul, Int.cast_natCast, mul_assoc]
      rfl

theorem unpackedReach_le {a : UnpackedFloat} (canonical : IsCanonical a) (bounded : IsBounded a) :
    unpackedReach a ≤ 2 ^ 1024 := by
  have top : (0 : ℚ) ≤ 2 ^ 1024 := pow_nonneg zero_le_two _
  have below {size : ℚ} (low : 0 ≤ size) (high : size ≤ 2 ^ 1024) (sign : Sign) :
      signSide sign * size ≤ 2 ^ 1024 := by
    cases sign with
    | negative => exact (signSide_negative_mul size).trans_le ((neg_nonpos.mpr low).trans top)
    | positive => exact (signSide_positive_mul size).trans_le high
  cases a with
  | notANumber => exact top
  | zero sign => exact top
  | infinity sign => exact below top le_rfl sign
  | finite sign mantissa exponent positive =>
    refine below (by positivity) ?_ sign
    calc (mantissa * 2 ^ exponent : ℚ) ≤ 2 ^ 53 * 2 ^ (971 : ℤ) :=
          mul_le_mul (by exact_mod_cast canonical.1.le) (zpow_le_zpow_right₀ one_le_two bounded)
            (zpow_nonneg zero_le_two _) (pow_nonneg zero_le_two _)
      _ = 2 ^ 1024 := by
          rw [← zpow_natCast, ← zpow_natCast, ← zpow_add₀ two_ne_zero]
          rfl

theorem onGrid_reach (a : Float) : OnGrid (reach a) :=
  onGrid_unpackedReach (isCanonical_unpack a.toModel)

theorem reach_le (a : Float) : reach a ≤ 2 ^ 1024 :=
  unpackedReach_le (isCanonical_unpack a.toModel) (isBounded_unpack a.toModel)

theorem unpackedReach_infinity : unpackedReach (.infinity .positive) = 2 ^ 1024 :=
  signSide_positive_mul _

theorem unpackedReach_settled (mantissa : Nat) (exponent : Int) :
    unpackedReach (settled mantissa exponent) = mantissa * 2 ^ exponent := by
  unfold settled
  split
  · exact signSide_positive_mul _
  · rename_i zero
    rw [Nat.eq_zero_of_not_pos zero, Nat.cast_zero, zero_mul]
    rfl

theorem isEven_settled {mantissa : Nat} {exponent : Int} (even : mantissa % 2 = 0) :
    IsEven (settled mantissa exponent) := by
  unfold settled
  split
  · exact even
  · trivial

/-! ### Rounding and packing -/

/-- If the nearest number lies beyond the last one that fits, no other one that fits is nearer than
the last one. -/
theorem abs_sub_top_le {x y nearest top : ℚ} (beyond : top ≤ nearest)
    (last : |x - nearest| ≤ |x - top|) (other : |x - nearest| ≤ |x - y|) (fits : y ≤ top) :
    |x - top| ≤ |x - y| := by
  rcases beyond.eq_or_lt with rfl | beyond
  · exact other
  · have above : top < x := by
      by_contra below
      rw [abs_of_nonpos (by linarith), abs_of_nonpos (by linarith)] at last
      linarith
    rw [abs_of_pos (by linarith), abs_of_nonneg (by linarith)]
    linarith

/-- What is rounded is packed as it is, or is too large and becomes infinite. -/
theorem RoundsTo.unpack_pack {x : ℚ} {a : UnpackedFloat} (rounds : RoundsTo x a) :
    ∃ (mantissa : Nat) (exponent : Int), IsClosest x mantissa exponent ∧
      ((Float.Model.pack a).unpack = settled mantissa exponent ∨
        (Float.Model.pack a).unpack = .infinity .positive ∧
          (2 ^ 1024 : ℚ) ≤ mantissa * 2 ^ exponent) := by
  obtain ⟨mantissa, exponent, rfl, canonical, closest⟩ := rounds
  refine ⟨mantissa, exponent, closest, ?_⟩
  rcases em (IsBounded (settled mantissa exponent)) with bounded | overflow
  · exact .inl (Decimal.unpack_pack canonical bounded)
  · have positive : 0 < mantissa := by
      by_contra zero
      rw [settled, dif_neg zero] at overflow
      exact overflow trivial
    rw [settled, dif_pos positive] at canonical overflow ⊢
    replace overflow : 971 < exponent := not_le.mp overflow
    have large := canonical.2.2.resolve_right (by omega)
    refine .inr ⟨unpack_pack_overflow overflow, ?_⟩
    calc (2 ^ 1024 : ℚ) = 2 ^ 52 * 2 ^ (972 : ℤ) := by
          rw [← zpow_natCast, ← zpow_natCast, ← zpow_add₀ two_ne_zero]
          rfl
      _ ≤ mantissa * 2 ^ exponent :=
          mul_le_mul (by exact_mod_cast large) (zpow_le_zpow_right₀ one_le_two overflow)
            (zpow_nonneg zero_le_two _) (Nat.cast_nonneg _)

/-- **Rounding** and packing give the nearest number. -/
theorem RoundsTo.isNearest {x : ℚ} {a : UnpackedFloat} (rounds : RoundsTo x a) :
    IsNearest x (Float.ofModel (Float.Model.pack a)) := by
  have number : Scalar.isNaN (Float.ofModel (Float.Model.pack a)) = false := by
    rw [isNaN_eq, isNaN_unpack_pack]
    obtain ⟨mantissa, exponent, rfl, -⟩ := rounds
    unfold settled
    split <;> rfl
  obtain ⟨mantissa, exponent, closest, kept | ⟨infinite, beyond⟩⟩ := rounds.unpack_pack
  · have place : reach (Float.ofModel (Float.Model.pack a)) = mantissa * 2 ^ exponent :=
      (congrArg _ kept).trans (unpackedReach_settled mantissa exponent)
    refine ⟨number, fun b _ => ?_, fun b _ tie => ?_⟩
    · rw [place]
      exact closest.le (onGrid_reach b)
    · rw [place] at tie ⊢
      refine (closest.eq_or_even (onGrid_reach b) tie).imp_right fun even => ?_
      exact (congrArg IsEven kept).mpr (isEven_settled even)
  · have place : reach (Float.ofModel (Float.Model.pack a)) = 2 ^ 1024 :=
      (congrArg unpackedReach infinite).trans unpackedReach_infinity
    have onGrid : OnGrid (2 ^ 1024) := by
      rw [← unpackedReach_infinity]
      exact onGrid_unpackedReach trivial
    refine ⟨number, fun b _ => ?_, fun b _ _ => .inr ((congrArg IsEven infinite).mpr trivial)⟩
    rw [place]
    exact abs_sub_top_le beyond (closest.le onGrid) (closest.le (onGrid_reach b)) (reach_le b)

/-- A number with 53 bits that is not too large is reached. -/
theorem RoundsTo.reach_eq {x : ℚ} {a : UnpackedFloat} (rounds : RoundsTo x a) (onGrid : OnGrid x)
    (small : x < 2 ^ 1024) : reach (Float.ofModel (Float.Model.pack a)) = x := by
  obtain ⟨mantissa, exponent, closest, kept | ⟨-, beyond⟩⟩ := rounds.unpack_pack
  · refine (congrArg unpackedReach kept).trans ?_
    rw [unpackedReach_settled, closest.eq_of_onGrid onGrid]
  · rw [closest.eq_of_onGrid onGrid] at beyond
    exact absurd small (not_lt.mpr beyond)

/-! ### Natural numbers and powers of ten -/

/-- A natural number is rounded to the nearest number. -/
theorem roundsTo_ofNat (value : Nat) : RoundsTo value (UnpackedFloat.ofNat .binary64 value) := by
  rcases Nat.eq_zero_or_pos value with rfl | positive
  · rw [Nat.cast_zero]
    exact roundsTo_zero le_rfl (zpow_pos two_pos _)
  obtain ⟨places, width⟩ : ∃ places : Nat, 52 ≤ places + value.log2 ∧
      (0 - max ((value.log2 : Int) + 1 + 0 - 53) (-1074)).toNat = places := ⟨_, by omega, rfl⟩
  obtain ⟨wide, shift⟩ := width
  have full : 2 ^ 52 ≤ value <<< places := by
    rw [Nat.shiftLeft_eq]
    calc 2 ^ 52 ≤ 2 ^ (value.log2 + places) := Nat.pow_le_pow_right two_pos (by omega)
      _ = 2 ^ value.log2 * 2 ^ places := Nat.pow_add _ _ _
      _ ≤ value * 2 ^ places := Nat.mul_le_mul_right _ (Nat.log2_self_le positive.ne')
  have least : (-1074 : Int) ≤ 0 - places := by omega
  have rounded := roundsTo_roundWithAccuracy (Located.exact (value <<< places)) least (.inr full)
  have same : ((value <<< places : Nat) * 2 ^ (0 - places : Int) : ℚ) = value := by
    rw [Nat.shiftLeft_eq, zero_sub, zpow_neg, zpow_natCast]
    push_cast
    field_simp
  have above : compare (value : Int) 0 = .gt := compare_gt_iff_gt.mpr (by exact_mod_cast positive)
  rw [same, ← shift] at rounded
  unfold UnpackedFloat.ofNat UnpackedFloat.ofInt UnpackedFloat.normalize
  rw [above]
  exact rounded

theorem onGrid_natCast {value : Nat} (bits : value < 2 ^ 53) : OnGrid value := by
  refine ⟨value, 0, ?_, by decide, ?_⟩
  · rw [Nat.abs_cast]
    exact_mod_cast bits
  · rw [zpow_zero, mul_one, Int.cast_natCast]

theorem natCast_lt_top {value : Nat} (bits : value < 2 ^ 53) : (value : ℚ) < 2 ^ 1024 := by
  calc (value : ℚ) < 2 ^ 53 := by exact_mod_cast bits
    _ ≤ 2 ^ 1024 := pow_le_pow_right₀ one_le_two (by decide)

theorem reach_toFloat {value : Nat} (bits : value < 2 ^ 53) :
    reach value.toUInt64.toFloat = value := by
  have kept : value.toUInt64.toNat = value := by
    show value % 2 ^ 64 = value
    omega
  have rounds : RoundsTo value.toUInt64.toNat
      (UnpackedFloat.ofUInt64 .binary64 value.toUInt64) := roundsTo_ofNat _
  rw [congrArg (Nat.cast : Nat → ℚ) kept] at rounds
  exact rounds.reach_eq (onGrid_natCast bits) (natCast_lt_top bits)

theorem reach_powersOfTen (place : Nat)
    (listed : place < Float.exactlyRepresentablePowersOfTen.size) :
    reach Float.exactlyRepresentablePowersOfTen[place] = 10 ^ place := by
  have all : ∀ (place : Nat) (listed : place < 23),
      reach Float.exactlyRepresentablePowersOfTen[place] = 10 ^ place := by decide +kernel
  exact all place listed

/-- A positive number that is not infinite has a mantissa and an exponent. -/
theorem exists_finite_of_reach {a : Float} (positive : 0 < reach a) (finite : reach a < 2 ^ 1024) :
    ∃ (mantissa : Nat) (exponent : Int) (nonzero : 0 < mantissa),
      a.toModel.unpack = .finite .positive mantissa exponent nonzero ∧
        mantissa * 2 ^ exponent = reach a := by
  unfold reach at positive finite ⊢
  have top : (0 : ℚ) ≤ 2 ^ 1024 := pow_nonneg zero_le_two _
  cases unpacked : a.toModel.unpack with
  | notANumber =>
    rw [unpacked] at positive
    exact absurd positive (lt_irrefl 0)
  | zero sign =>
    rw [unpacked] at positive
    exact absurd positive (lt_irrefl 0)
  | infinity sign =>
    rw [unpacked, unpackedReach] at positive finite
    cases sign with
    | negative =>
      rw [signSide_negative_mul] at positive
      exact absurd (neg_nonpos.mpr top) (not_le.mpr positive)
    | positive =>
      rw [signSide_positive_mul] at finite
      exact absurd finite (lt_irrefl _)
  | finite sign mantissa exponent nonzero =>
    rw [unpacked, unpackedReach] at positive
    cases sign with
    | negative =>
      rw [signSide_negative_mul] at positive
      have below : (0 : ℚ) ≤ mantissa * 2 ^ exponent := by positivity
      exact absurd (neg_nonpos.mpr below) (not_le.mpr positive)
    | positive => exact ⟨mantissa, exponent, nonzero, rfl, (signSide_positive_mul _).symm⟩

/-! ### Decimal numbers -/

theorem lt_exponent_of_one_le {mantissa : Nat} {exponent : ℤ} (bits : mantissa < 2 ^ 53)
    (low : (1 : ℚ) ≤ mantissa * 2 ^ exponent) : -53 < exponent := by
  have size : (2 : ℚ) ^ (0 : ℤ) < 2 ^ (53 + exponent) := by
    calc (2 : ℚ) ^ (0 : ℤ) ≤ mantissa * 2 ^ exponent := low
      _ < 2 ^ 53 * 2 ^ exponent :=
          (mul_lt_mul_iff_left₀ (zpow_pos two_pos _)).mpr (by exact_mod_cast bits)
      _ = 2 ^ (53 + exponent) := by
          rw [zpow_add₀ two_ne_zero]
          rfl
  have places := (zpow_lt_zpow_iff_right₀ one_lt_two).mp size
  omega

theorem exponent_lt_of_lt {mantissa : Nat} {exponent bound : ℤ} (positive : 0 < mantissa)
    (high : (mantissa * 2 ^ exponent : ℚ) < 2 ^ bound) : exponent < bound := by
  have unit : (2 : ℚ) ^ exponent < 2 ^ bound := by
    refine lt_of_le_of_lt ?_ high
    exact le_mul_of_one_le_left (zpow_nonneg zero_le_two _) (by exact_mod_cast positive)
  exact (zpow_lt_zpow_iff_right₀ one_lt_two).mp unit

/-- **The quotient** of a natural number with 53 bits and a number that is not too large is rounded
to the nearest number. -/
theorem roundsTo_toFloat_div {digits : Nat} {b : Float} (bits : digits < 2 ^ 53)
    (low : 0 < reach b) (high : reach b < 2 ^ (1000 : ℤ)) :
    RoundsTo (digits / reach b)
      (UnpackedFloat.div .binary64 digits.toUInt64.toFloat.toModel.unpack b.toModel.unpack) := by
  have finite : reach b < 2 ^ 1024 := by
    refine high.trans ?_
    rw [← zpow_natCast]
    exact zpow_lt_zpow_right₀ one_lt_two (by decide)
  obtain ⟨mantissa', exponent', positive', unpacked', value'⟩ := exists_finite_of_reach low finite
  rw [unpacked', ← value']
  rcases Nat.eq_zero_or_pos digits with rfl | positive
  · rw [Nat.cast_zero, zero_div]
    exact roundsTo_zero le_rfl (zpow_pos two_pos _)
  have whole := reach_toFloat bits
  have one : (1 : ℚ) ≤ digits := by exact_mod_cast positive
  obtain ⟨mantissa, exponent, nonzero, unpacked, value⟩ :=
    exists_finite_of_reach ((one_pos.trans_le one).trans_eq whole.symm)
      (whole.trans_lt (natCast_lt_top bits))
  have canonical := isCanonical_unpack digits.toUInt64.toFloat.toModel
  rw [unpacked] at canonical
  -- the exponents are far from those at which a quotient would lose bits
  have above := lt_exponent_of_one_le canonical.1 (one.trans_eq (value.trans whole).symm)
  have below := exponent_lt_of_lt positive' (value'.trans_lt high)
  rw [← whole, ← value, unpacked]
  exact roundsTo_div nonzero positive' (by omega)

/-- A decimal number is read by rounding. -/
theorem exists_roundsTo_ofScientific (digits places : Nat) :
    ∃ a, RoundsTo (digits / 10 ^ places) a ∧
      (OfScientific.ofScientific digits true places : Float) =
        Float.ofModel (Float.Model.pack a) := by
  show ∃ a, _ ∧ Float.ofScientific digits true places = _
  unfold Float.ofScientific
  split
  · rename_i short
    obtain ⟨bits, listed⟩ := short
    have inside : places < Float.exactlyRepresentablePowersOfTen.size := Nat.lt_succ_of_le listed
    have power := reach_powersOfTen places inside
    have above : 0 < reach Float.exactlyRepresentablePowersOfTen[places] := by
      rw [power]
      positivity
    have below : reach Float.exactlyRepresentablePowersOfTen[places] < 2 ^ (1000 : ℤ) := by
      rw [power]
      calc (10 ^ places : ℚ) ≤ 10 ^ 22 := pow_le_pow_right₀ (by norm_num) listed
        _ < 2 ^ (74 : ℤ) := by norm_num
        _ ≤ 2 ^ (1000 : ℤ) := zpow_le_zpow_right₀ one_le_two (by decide)
    have rounds := roundsTo_toFloat_div bits above below
    rw [power] at rounds
    exact ⟨_, rounds, rfl⟩
  · exact ⟨_, roundsTo_ofScientific digits places, rfl⟩

/-! ### Signs -/

/-- Whether an unpacked number has a minus sign. -/
def unpackedNegative : UnpackedFloat → Bool
  | .infinity sign => sign == .negative
  | .zero sign => sign == .negative
  | .finite sign _ _ _ => sign == .negative
  | .notANumber => false

/-- Whether a number has a minus sign, as one of the zeros has. -/
def isNegative (a : Float) : Bool := unpackedNegative a.toModel.unpack

/-- Whether a number is the one to which a size with a sign is rounded. -/
structure IsSigned (negative : Bool) (size : ℚ) (a : Float) : Prop where
  sign : isNegative a = negative
  nearest : IsNearest (if negative then -size else size) a

theorem unpack_neg (a : Float) : (-a).toModel.unpack = a.toModel.unpack.neg := by
  have canonical := isCanonical_unpack a.toModel
  have bounded := isBounded_unpack a.toModel
  show (Float.Model.pack a.toModel.unpack.neg).unpack = _
  cases unpacked : a.toModel.unpack with
  | finite sign mantissa exponent positive =>
    rw [unpacked] at canonical bounded
    exact unpack_pack canonical bounded
  | _ => exact unpack_pack trivial trivial

theorem reach_neg (a : Float) : reach (-a) = -reach a := by
  have side (sign : Sign) : signSide (-sign) = -signSide sign := by cases sign <;> rfl
  unfold reach
  rw [unpack_neg]
  cases a.toModel.unpack with
  | notANumber => exact neg_zero.symm
  | zero sign => exact neg_zero.symm
  | infinity sign =>
    show ((signSide (-sign) : Int) : ℚ) * _ = -((signSide sign : Int) * _ : ℚ)
    rw [side, Int.cast_neg, neg_mul]
  | finite sign mantissa exponent positive =>
    show ((signSide (-sign) : Int) : ℚ) * _ = -((signSide sign : Int) * _ : ℚ)
    rw [side, Int.cast_neg, neg_mul]

theorem isNegative_neg {a : Float} (number : Scalar.isNaN a = false) :
    isNegative (-a) = !isNegative a := by
  rw [isNaN_eq] at number
  unfold isNegative
  rw [unpack_neg]
  cases unpacked : a.toModel.unpack with
  | notANumber =>
    rw [unpacked] at number
    cases number
  | infinity sign => cases sign <;> rfl
  | zero sign => cases sign <;> rfl
  | finite sign mantissa exponent positive => cases sign <;> rfl

theorem isEven_neg {a : UnpackedFloat} (even : IsEven a) : IsEven a.neg := by
  cases a with
  | finite sign mantissa exponent positive => exact even
  | _ => trivial

/-- **The nearest number** to a number of the other sign. -/
theorem IsNearest.neg {x : ℚ} {a : Float} (nearest : IsNearest x a) : IsNearest (-x) (-a) := by
  have mirrored (b : Float) : |-x - reach b| = |x - reach (-b)| := by
    rw [reach_neg, ← abs_neg]
    congr 1
    ring
  refine ⟨number_neg nearest.number, fun b number => ?_, fun b number tie => ?_⟩
  · rw [mirrored, mirrored, reach_neg (-a), reach_neg a, neg_neg]
    exact nearest.le (-b) (number_neg number)
  · rw [mirrored, mirrored, reach_neg (-a), reach_neg a, neg_neg] at tie
    refine (nearest.eq_or_even (-b) (number_neg number) tie).imp (fun same => ?_) fun even => ?_
    · rw [reach_neg] at same ⊢
      rw [← same, neg_neg]
    · rw [unpack_neg]
      exact isEven_neg even

/-- What is rounded has no minus sign. -/
theorem RoundsTo.isNegative {x : ℚ} {a : UnpackedFloat} (rounds : RoundsTo x a) :
    isNegative (Float.ofModel (Float.Model.pack a)) = false := by
  obtain ⟨mantissa, exponent, -, kept | ⟨infinite, -⟩⟩ := rounds.unpack_pack
  · refine (congrArg unpackedNegative kept).trans ?_
    unfold settled
    split <;> rfl
  · exact congrArg unpackedNegative infinite

/-- **A decimal number** is read as the nearest number, with its sign. -/
theorem Literal.isSigned_value (literal : Literal) :
    IsSigned literal.negative (literal.digits / 10 ^ literal.places) literal.value := by
  obtain ⟨a, rounds, read⟩ := exists_roundsTo_ofScientific literal.digits literal.places
  unfold Literal.value
  rw [read]
  cases literal.negative with
  | false => exact ⟨rounds.isNegative, rounds.isNearest⟩
  | true => 
    refine ⟨(isNegative_neg rounds.isNearest.number).trans ?_, rounds.isNearest.neg⟩
    rw [rounds.isNegative]
    rfl

end DesignRules.Decimal
