/-
**The signs of binary64 results.**

Rounding never carries a result to the other side of zero, though it may bring it to zero. So a
product lies where the signs of its factors put it, a difference lies where the order of its terms
puts it, and what is no number comes only from terms that leave the result open.

* `Leans`, `leans_normalize`, `leans_unpack_pack`: what rounding and packing keep.
* `side`, `compare_zero`, `lt_zero_iff`, `zero_lt_iff`: the side of zero on which a number lies.
* `side_mul`, `side_sub_of_le`: products and differences.
* `number_mul_of_finite`, `number_mul_self`, `number_neg`: results that are numbers.
* `Measures`, `Measures.add`, `Measures.root`: numbers that are not negative, their sums and roots.
-/

import DesignRules.Proofs.Decimal.Order
import Mathlib

namespace DesignRules.Decimal

open Float.Model (UnpackedFloat)
open Float.Model.UnpackedFloat (Accuracy Sign decreaseExponent pack packComponents packedInfinity
  roundWithAccuracy unpackExponent unpackSign)

/-! ### Sides of zero -/

/-- The side of zero on which the numbers of a sign lie. -/
def signSide : Sign → Int
  | .negative => -1
  | .positive => 1

/-- The side of zero on which an unpacked number lies. The zeros lie on neither side, and the same is
said of what is no number. -/
def unpackedSide : UnpackedFloat → Int
  | .infinity sign => signSide sign
  | .finite sign _ _ _ => signSide sign
  | .zero _ => 0
  | .notANumber => 0

theorem signSide_mul (first second : Sign) :
    signSide (first * second) = signSide first * signSide second := by
  cases first <;> cases second <;> rfl

/-- Whether an unpacked number lies on a side of zero, or has been rounded to zero. -/
structure Leans (side : Int) (a : UnpackedFloat) : Prop where
  number : a.isNaN = false
  side : unpackedSide a = side ∨ unpackedSide a = 0

theorem leans_zero (side : Int) (sign : Sign) : Leans side (.zero sign) := ⟨rfl, .inr rfl⟩

theorem leans_finite (sign : Sign) (mantissa : Nat) (exponent : Int) (positive : 0 < mantissa) :
    Leans (signSide sign) (.finite sign mantissa exponent positive) := ⟨rfl, .inl rfl⟩

/-! ### Rounding and packing -/

theorem leans_roundWithAccuracy (sign : Sign) (mantissa : Nat) (exponent : Int)
    (accuracy : Accuracy) :
    Leans (signSide sign) (roundWithAccuracy .binary64 sign mantissa exponent accuracy) := by
  unfold roundWithAccuracy
  dsimp only
  split
  · exact leans_zero _ sign
  · exact leans_finite sign _ _ _

/-- **A rounded sum** lies on the side of its exact mantissa. -/
theorem leans_normalize (mantissa exponent : Int) (zeroSign : Sign) :
    Leans mantissa.sign (UnpackedFloat.normalize .binary64 mantissa exponent zeroSign) := by
  unfold UnpackedFloat.normalize
  split
  · rename_i below
    rw [Int.sign_eq_neg_one_of_neg (compare_lt_iff_lt.mp below)]
    exact leans_roundWithAccuracy .negative _ _ _
  · exact leans_zero _ zeroSign
  · rename_i above
    rw [Int.sign_eq_one_of_pos (compare_gt_iff_gt.mp above)]
    exact leans_roundWithAccuracy .positive _ _ _

/-- Parts whose exponent is not the largest one are those of a number. -/
theorem leans_unpack_packComponents (sign : Sign) {exponent : BitVec 11} (mantissa : BitVec 52)
    (finite : exponent ≠ -1#11) :
    Leans (signSide sign)
      (UnpackedFloat.unpack .binary64 (packComponents .binary64 sign exponent mantissa)) := by
  unfold UnpackedFloat.unpack
  simp only [UnpackedFloat.unpackMantissa_packComponents,
    UnpackedFloat.unpackExponent_packComponents, UnpackedFloat.unpackSign_packComponents,
    Sign.ofBitVec_toBitVec]
  rw [if_neg finite]
  split
  · split
    · exact leans_zero _ sign
    · exact leans_finite sign _ _ _
  · exact leans_finite sign _ _ _

theorem leans_unpack_packedInfinity (sign : Sign) :
    Leans (signSide sign) (UnpackedFloat.unpack .binary64 (packedInfinity .binary64 sign)) := by
  cases sign with
  | negative => exact ⟨by decide, .inl (by decide)⟩
  | positive => exact ⟨by decide, .inl (by decide)⟩

/-- **Packing** leaves a number on its side of zero. -/
theorem leans_unpack_pack {a : UnpackedFloat} (number : a.isNaN = false) :
    Leans (unpackedSide a) (Float.Model.pack a).unpack := by
  show Leans _ (UnpackedFloat.unpack .binary64 (pack .binary64 a))
  cases a with
  | notANumber => cases number
  | infinity sign => exact leans_unpack_packedInfinity sign
  | zero sign => cases sign <;> exact ⟨by decide, .inr (by decide)⟩
  | finite sign mantissa exponent positive =>
    unfold pack
    dsimp only
    split
    · exact leans_unpack_packedInfinity sign
    rename_i small
    split
    · refine leans_unpack_packComponents sign _ fun largest => small ?_
      have size := congrArg BitVec.toNat largest
      rw [BitVec.toNat_ofNat] at size
      have bound := Nat.mod_le (exponent + (Float.Model.Format.binary64.exponentBias : Int) +
        (Float.Model.Format.binary64.mantissaBitsWithoutImplicit : Int)).toNat (2 ^ 11)
      have top : (-1#11).toNat = 2047 := rfl
      show 2 ^ 11 ≤ _
      omega
    · exact leans_unpack_packComponents sign _ (by decide)

theorem eq_notANumber {a : UnpackedFloat} (missing : a.isNaN = true) : a = .notANumber := by
  cases a with
  | notANumber => rfl
  | _ => cases missing

theorem isNaN_unpack_pack (a : UnpackedFloat) : (Float.Model.pack a).unpack.isNaN = a.isNaN := by
  cases number : a.isNaN with
  | false => exact (leans_unpack_pack number).number
  | true =>
    rw [eq_notANumber number]
    decide

/-! ### Sums, products and quotients -/

/-- Whether an unpacked number is zero. -/
def isZero : UnpackedFloat → Bool
  | .zero _ => true
  | _ => false

theorem isZero_eq_false {a : UnpackedFloat} (aside : unpackedSide a ≠ 0) : isZero a = false := by
  cases a with
  | zero sign => exact absurd rfl aside
  | _ => rfl

/-- A product is no number only where infinity meets zero. -/
theorem isNaN_mul_unpacked (a b : UnpackedFloat) :
    (UnpackedFloat.mul .binary64 a b).isNaN =
      (a.isNaN || b.isNaN || (a.isInf && isZero b) || (isZero a && b.isInf)) := by
  cases a with
  | notANumber => rfl
  | infinity sign => cases b <;> rfl
  | zero sign => cases b <;> rfl
  | finite sign mantissa exponent positive =>
    cases b with
    | finite sign' mantissa' exponent' positive' =>
      exact (leans_roundWithAccuracy (sign * sign') _ _ _).number
    | _ => rfl

/-- **A product** lies where the signs of its factors put it. -/
theorem side_mul_unpacked (a b : UnpackedFloat) :
    unpackedSide (UnpackedFloat.mul .binary64 a b) = unpackedSide a * unpackedSide b ∨
      unpackedSide (UnpackedFloat.mul .binary64 a b) = 0 := by
  cases a with
  | notANumber => exact .inr rfl
  | zero sign => cases b <;> exact .inr rfl
  | infinity sign =>
    cases b with
    | notANumber => exact .inr rfl
    | zero sign' => exact .inr rfl
    | infinity sign' => exact .inl (signSide_mul sign sign')
    | finite sign' => exact .inl (signSide_mul sign sign')
  | finite sign mantissa exponent positive =>
    cases b with
    | notANumber => exact .inr rfl
    | zero sign' => exact .inr rfl
    | infinity sign' => exact .inl (signSide_mul sign sign')
    | finite sign' mantissa' exponent' positive' =>
      have rounded := leans_roundWithAccuracy (sign * sign') (mantissa * mantissa')
        (exponent + exponent') .exact
      rw [signSide_mul] at rounded
      exact rounded.side

/-- Whether an unpacked number is a number that does not lie below zero. -/
structure IsMeasure (a : UnpackedFloat) : Prop where
  number : a.isNaN = false
  side : 0 ≤ unpackedSide a

theorem Leans.isMeasure {side : Int} {a : UnpackedFloat} (leans : Leans side a) (above : 0 ≤ side) :
    IsMeasure a := by
  refine ⟨leans.number, ?_⟩
  rcases leans.side with same | zero
  · rw [same]
    exact above
  · rw [zero]

/-- **A sum** of measures is a measure. -/
theorem IsMeasure.add {a b : UnpackedFloat} (left : IsMeasure a) (right : IsMeasure b) :
    IsMeasure (UnpackedFloat.add .binary64 a b) := by
  have above {sign : Sign} (side : 0 ≤ signSide sign) : sign = .positive := by
    cases sign with
    | negative => exact absurd side (by decide)
    | positive => rfl
  cases a with
  | notANumber => cases left.number
  | zero sign =>
    cases b with
    | zero sign' => cases sign <;> cases sign' <;> exact ⟨rfl, le_rfl⟩
    | _ => exact right
  | infinity sign =>
    obtain rfl := above left.side
    cases b with
    | notANumber => cases right.number
    | infinity sign' =>
      obtain rfl := above right.side
      exact left
    | _ => exact left
  | finite sign mantissa exponent positive =>
    obtain rfl := above left.side
    cases b with
    | notANumber => cases right.number
    | infinity sign' => exact right
    | zero sign' => exact left
    | finite sign' mantissa' exponent' positive' =>
      obtain rfl := above right.side
      refine (leans_normalize _ _ _).isMeasure (Int.sign_nonneg_iff.mpr ?_)
      exact Int.add_nonneg (Int.natCast_nonneg _) (Int.natCast_nonneg _)

/-- **The root** of a measure is a measure. -/
theorem IsMeasure.sqrt {a : UnpackedFloat} (measure : IsMeasure a) :
    IsMeasure (UnpackedFloat.sqrt .binary64 a) := by
  cases a with
  | notANumber => cases measure.number
  | zero sign => exact ⟨rfl, le_rfl⟩
  | infinity sign =>
    cases sign with
    | negative => exact absurd measure.side (by decide)
    | positive => exact measure
  | finite sign mantissa exponent positive =>
    cases sign with
    | negative => exact absurd measure.side (show ¬ (0 : Int) ≤ -1 by decide)
    | positive => exact (leans_roundWithAccuracy .positive _ _ _).isMeasure (by decide)

/-! ### Differences -/

/-- Whether an unpacked number has the mantissa and the exponent that it has when it comes from a
packed one. -/
def IsCanonical : UnpackedFloat → Prop
  | .finite _ mantissa exponent _ =>
    mantissa < 2 ^ 53 ∧ -1074 ≤ exponent ∧ (2 ^ 52 ≤ mantissa ∨ exponent = -1074)
  | _ => True

theorem isCanonical_unpack (a : Float.Model) : IsCanonical a.unpack := by
  show IsCanonical (UnpackedFloat.unpack .binary64 a.toBits.toBitVec)
  unfold UnpackedFloat.unpack
  dsimp only
  split
  · split <;> trivial
  split
  · rename_i zero
    split
    · trivial
    · refine ⟨?_, ?_, .inr ?_⟩
      · exact Nat.lt_trans (BitVec.isLt _) (by decide)
      · rw [zero]
        decide
      · rw [zero]
        decide
  · rename_i normal
    refine ⟨BitVec.isLt _, ?_, .inl ?_⟩
    · generalize (unpackExponent a.toBits.toBitVec :
        BitVec Float.Model.Format.binary64.exponentBits) = field at normal
      have positive : 0 < field.toNat :=
        Nat.pos_of_ne_zero fun zero => normal (BitVec.eq_of_toNat_eq zero)
      show (-1074 : Int) ≤ (field.toNat : Int) - (1023 + 52)
      omega
    · rw [BitVec.toNat_append, ← Nat.shiftLeft_add_eq_or_of_lt (BitVec.isLt _), Nat.shiftLeft_eq]
      exact Nat.le_add_right _ _

/-- A size counted in the smallest positive number. -/
def scaled (mantissa : Nat) (exponent : Int) : Nat := mantissa * 2 ^ (exponent + 1074).toNat

/-- Sizes grow with their exponents, and with their mantissas where the exponents are equal. -/
theorem scaled_le {mantissa mantissa' : Nat} {exponent exponent' : Int}
    (small : mantissa < 2 ^ 53) (least : -1074 ≤ exponent)
    (large : 2 ^ 52 ≤ mantissa' ∨ exponent' = -1074)
    (ordered : exponent < exponent' ∨ exponent = exponent' ∧ mantissa ≤ mantissa') :
    scaled mantissa exponent ≤ scaled mantissa' exponent' := by
  rcases ordered with below | ⟨rfl, below⟩
  · have normal : 2 ^ 52 ≤ mantissa' := large.resolve_right (by omega)
    have farther : (exponent + 1074).toNat + 1 ≤ (exponent' + 1074).toNat := by omega
    calc mantissa * 2 ^ (exponent + 1074).toNat
        ≤ 2 ^ 53 * 2 ^ (exponent + 1074).toNat := Nat.mul_le_mul_right _ small.le
      _ = 2 ^ 52 * 2 ^ ((exponent + 1074).toNat + 1) := by
        rw [Nat.pow_succ]
        omega
      _ ≤ mantissa' * 2 ^ (exponent' + 1074).toNat :=
        Nat.mul_le_mul normal (Nat.pow_le_pow_right (by decide) farther)
  · exact Nat.mul_le_mul_right _ below

/-- A mantissa for a lower exponent stands for the same size. -/
theorem decreaseExponent_scaled {mantissa : Nat} {exponent target : Int} (least : -1074 ≤ target)
    (below : target ≤ exponent) :
    (decreaseExponent mantissa exponent target).1 * 2 ^ (target + 1074).toNat =
      scaled mantissa exponent := by
  show (mantissa <<< (exponent - target).toNat) * 2 ^ (target + 1074).toNat = _
  rw [Nat.shiftLeft_eq, Nat.mul_assoc, ← Nat.pow_add, scaled]
  congr 2
  omega

theorem Standing.of_le_of {part exponent mantissa part' exponent' mantissa' : Int} :
    Standing.of part exponent mantissa ≤ .of part' exponent' mantissa' ↔
      part < part' ∨ part = part' ∧
        (exponent < exponent' ∨ exponent = exponent' ∧ mantissa ≤ mantissa') := by
  simp only [Standing.of, Prod.Lex.toLex_le_toLex]

/-- The size of a finite number with its sign. -/
def exactly (sign : Sign) (mantissa : Nat) (exponent : Int) : Int :=
  sign.apply (scaled mantissa exponent)

/-- Finite numbers are ordered by their places as they are by their sizes. -/
theorem exactly_le {sign sign' : Sign} {mantissa mantissa' : Nat} {exponent exponent' : Int}
    {positive : 0 < mantissa} {positive' : 0 < mantissa'}
    (canonical : IsCanonical (.finite sign mantissa exponent positive))
    (canonical' : IsCanonical (.finite sign' mantissa' exponent' positive'))
    (ordered : unpackedStanding (.finite sign mantissa exponent positive) ≤
      unpackedStanding (.finite sign' mantissa' exponent' positive')) :
    exactly sign mantissa exponent ≤ exactly sign' mantissa' exponent' := by
  obtain ⟨small, least, large⟩ := canonical
  obtain ⟨small', least', large'⟩ := canonical'
  cases sign with
  | negative =>
    cases sign' with
    | negative =>
      have grows : scaled mantissa' exponent' ≤ scaled mantissa exponent :=
        scaled_le small' least' large (by have := Standing.of_le_of.mp ordered; omega)
      exact Int.neg_le_neg (Int.ofNat_le.mpr grows)
    | positive =>
      exact Int.le_trans (Int.neg_nonpos_of_nonneg (Int.natCast_nonneg _)) (Int.natCast_nonneg _)
  | positive =>
    cases sign' with
    | negative => exact absurd (Standing.of_le_of.mp ordered) (by omega)
    | positive =>
      exact Int.ofNat_le.mpr
        (scaled_le small least large' (by have := Standing.of_le_of.mp ordered; omega))

/-- The difference of the mantissas is a part of the difference of the sizes. -/
theorem sign_mantissas {sign sign' : Sign} {mantissa mantissa' : Nat} {exponent exponent' : Int}
    (least : -1074 ≤ exponent) (least' : -1074 ≤ exponent') :
    (sign.apply (decreaseExponent mantissa exponent (min exponent exponent')).1 -
        sign'.apply (decreaseExponent mantissa' exponent' (min exponent exponent')).1).sign =
      (exactly sign mantissa exponent - exactly sign' mantissa' exponent').sign := by
  have lowest : -1074 ≤ min exponent exponent' := le_min least least'
  have apply_mul (sign : Sign) (size factor : Nat) :
      sign.apply ((size * factor : Nat) : Int) = sign.apply size * (factor : Int) := by
    cases sign with
    | negative =>
      exact (congrArg Neg.neg (Int.natCast_mul size factor)).trans (neg_mul_eq_neg_mul _ _)
    | positive => exact Int.natCast_mul size factor
  have unit : ((2 ^ (min exponent exponent' + 1074).toNat : Nat) : Int).sign = 1 :=
    Int.sign_eq_one_of_pos (Int.natCast_pos.mpr (Nat.two_pow_pos _))
  rw [exactly, exactly, ← decreaseExponent_scaled lowest (min_le_left exponent exponent'),
    ← decreaseExponent_scaled lowest (min_le_right exponent exponent'), apply_mul, apply_mul,
    ← Int.sub_mul, Int.sign_mul, unit, Int.mul_one]

/-- The first part of the place of a number. -/
def unpackedPart (a : UnpackedFloat) : Int := (ofLex (unpackedStanding a)).1

theorem unpackedPart_le {a b : UnpackedFloat} (ordered : unpackedStanding a ≤ unpackedStanding b) :
    unpackedPart a ≤ unpackedPart b := by
  rcases Prod.Lex.le_iff.mp ordered with below | ⟨same, -⟩
  · exact below.le
  · exact same.le

/-- **A difference** lies where that of some integers does, which are ordered as its terms are. -/
theorem exists_difference {a b : UnpackedFloat} (left : IsCanonical a) (right : IsCanonical b) :
    ∃ first second : Int, (unpackedStanding a ≤ unpackedStanding b → first ≤ second) ∧
      (unpackedStanding b ≤ unpackedStanding a → second ≤ first) ∧
      (unpackedSide (UnpackedFloat.sub .binary64 a b) = (first - second).sign ∨
        unpackedSide (UnpackedFloat.sub .binary64 a b) = 0) := by
  have parts (side : unpackedSide (UnpackedFloat.sub .binary64 a b) =
        (unpackedPart a - unpackedPart b).sign ∨
      unpackedSide (UnpackedFloat.sub .binary64 a b) = 0) :
      ∃ first second : Int, (unpackedStanding a ≤ unpackedStanding b → first ≤ second) ∧
        (unpackedStanding b ≤ unpackedStanding a → second ≤ first) ∧
        (unpackedSide (UnpackedFloat.sub .binary64 a b) = (first - second).sign ∨
          unpackedSide (UnpackedFloat.sub .binary64 a b) = 0) :=
    ⟨unpackedPart a, unpackedPart b, unpackedPart_le, unpackedPart_le, side⟩
  cases a with
  | notANumber => exact parts (.inr rfl)
  | infinity sign =>
    cases b with
    | notANumber => exact parts (.inr rfl)
    | infinity sign' =>
      exact parts (by cases sign <;> cases sign' <;> exact .inl rfl)
    | zero sign' => exact parts (by cases sign <;> exact .inl rfl)
    | finite sign' => exact parts (by cases sign <;> cases sign' <;> exact .inl rfl)
  | zero sign =>
    cases b with
    | notANumber => exact parts (.inr rfl)
    | infinity sign' => exact parts (by cases sign' <;> exact .inl rfl)
    | zero sign' => exact parts (by cases sign <;> cases sign' <;> exact .inr rfl)
    | finite sign' => exact parts (by cases sign' <;> exact .inl rfl)
  | finite sign mantissa exponent positive =>
    cases b with
    | notANumber => exact parts (.inr rfl)
    | infinity sign' => exact parts (by cases sign <;> cases sign' <;> exact .inl rfl)
    | zero sign' => exact parts (by cases sign <;> exact .inl rfl)
    | finite sign' mantissa' exponent' positive' =>
      refine ⟨exactly sign mantissa exponent, exactly sign' mantissa' exponent',
        exactly_le left right, exactly_le right left, ?_⟩
      rw [← sign_mantissas left.2.1 right.2.1]
      exact (leans_normalize _ _ _).side

/-! ### Binary64 numbers -/

/-- The side of zero on which a number lies. -/
def side (a : Float) : Int := unpackedSide a.toModel.unpack

variable {a b : Float}

/-- **Comparing with zero** tells on which side of it a number lies. -/
theorem compare_zero (a : UnpackedFloat) :
    ((a.compare (.zero .positive) == some .lt) = true ↔ unpackedSide a = -1) ∧
      (((UnpackedFloat.zero .positive).compare a == some .lt) = true ↔ unpackedSide a = 1) := by
  cases a with
  | notANumber => decide
  | infinity sign => cases sign <;> decide
  | zero sign => cases sign <;> decide
  | finite sign => cases sign <;> simp [unpackedSide, signSide, UnpackedFloat.compare]

theorem unpack_zero : (0.0 : Float).toModel.unpack = .zero .positive := rfl

theorem lt_zero_iff : a < 0.0 ↔ side a = -1 := by
  rw [lt_iff_compare, unpack_zero, (compare_zero _).1, side]

theorem zero_lt_iff : 0.0 < a ↔ side a = 1 := by
  rw [lt_iff_compare, unpack_zero, (compare_zero _).2, side]

theorem numbers_of_le (below : a ≤ b) : Scalar.isNaN a = false ∧ Scalar.isNaN b = false := by
  have compares : (a.toModel.unpack.compare b.toModel.unpack).any Ordering.isLE = true :=
    decide_eq_true_iff.mp below
  rw [isNaN_eq, isNaN_eq, ← Bool.not_eq_true, ← Bool.not_eq_true, ← not_or]
  intro missing
  rw [compare_eq_none missing] at compares
  cases compares

theorem not_le_iff (number : Scalar.isNaN a = false) :
    ¬ a ≤ b ↔ b < a ∨ Scalar.isNaN b = true := by
  cases missing : Scalar.isNaN b with
  | false => rw [← not_lt_iff_le missing number, not_not, or_iff_left Bool.false_ne_true]
  | true =>
    refine iff_of_true (fun reached => ?_) (.inr rfl)
    rw [(numbers_of_le reached).2] at missing
    cases missing

/-- A number that is rounded and packed keeps to its side of zero. -/
theorem side_pack (a : UnpackedFloat) :
    unpackedSide (Float.Model.pack a).unpack = unpackedSide a ∨
      unpackedSide (Float.Model.pack a).unpack = 0 := by
  cases number : a.isNaN with
  | false => exact (leans_unpack_pack number).side
  | true =>
    rw [eq_notANumber number]
    exact .inl rfl

theorem side_mul (a b : Float) : side (a * b) = side a * side b ∨ side (a * b) = 0 := by
  rcases side_pack (UnpackedFloat.mul .binary64 a.toModel.unpack b.toModel.unpack) with
    same | zero
  · exact (side_mul_unpacked a.toModel.unpack b.toModel.unpack).imp same.trans same.trans
  · exact .inr zero

theorem exists_side_sub (a b : Float) :
    ∃ first second : Int, (standing a ≤ standing b → first ≤ second) ∧
      (standing b ≤ standing a → second ≤ first) ∧
      (side (a - b) = (first - second).sign ∨ side (a - b) = 0) := by
  obtain ⟨first, second, rises, falls, differs⟩ :=
    exists_difference (isCanonical_unpack a.toModel) (isCanonical_unpack b.toModel)
  refine ⟨first, second, rises, falls, ?_⟩
  rcases side_pack (UnpackedFloat.sub .binary64 a.toModel.unpack b.toModel.unpack) with
    same | zero
  · exact differs.imp same.trans same.trans
  · exact .inr zero

/-- **Differences** are not negative from the higher number to the lower one, and not positive from
the lower one to the higher. -/
theorem side_sub_of_le (ordered : a ≤ b) : 0 ≤ side (b - a) ∧ side (a - b) ≤ 0 := by
  obtain ⟨left, right⟩ := numbers_of_le ordered
  have places : standing a ≤ standing b := (le_iff_standing left right).mp ordered
  constructor
  · obtain ⟨first, second, -, falls, same | zero⟩ := exists_side_sub b a
    · rw [same, Int.sign_nonneg_iff]
      exact Int.sub_nonneg_of_le (falls places)
    · exact zero.ge
  · obtain ⟨first, second, rises, -, same | zero⟩ := exists_side_sub a b
    · rw [same, Int.sign_nonpos_iff]
      exact Int.sub_nonpos_of_le (rises places)
    · exact zero.le

/-! ### Results that are numbers -/

theorem number_iff : Scalar.isNaN a = false ↔ a.toModel.unpack.isNaN = false := by rw [isNaN_eq]

/-- **A product** with a finite number that is not zero is a number if the other factor is one. -/
theorem number_mul_of_finite (left : Scalar.isNaN a = false)
    (finite : b.toModel.unpack.isFinite = true) (aside : side b ≠ 0) :
    Scalar.isNaN (a * b) = false := by
  rw [isNaN_eq] at left ⊢
  refine (isNaN_unpack_pack _).trans ?_
  rw [isNaN_mul_unpacked, left, isZero_eq_false aside]
  cases unpacked : b.toModel.unpack with
  | notANumber =>
    rw [unpacked] at finite
    cases finite
  | infinity sign =>
    rw [unpacked] at finite
    cases finite
  | zero sign => simp [UnpackedFloat.isNaN, UnpackedFloat.isInf]
  | finite sign mantissa exponent positive => simp [UnpackedFloat.isNaN, UnpackedFloat.isInf]

theorem number_mul_self (number : Scalar.isNaN a = false) : Scalar.isNaN (a * a) = false := by
  rw [isNaN_eq] at number ⊢
  refine (isNaN_unpack_pack _).trans ?_
  rw [isNaN_mul_unpacked, number]
  cases a.toModel.unpack <;> rfl

theorem number_neg (number : Scalar.isNaN a = false) : Scalar.isNaN (-a) = false := by
  rw [isNaN_eq] at number ⊢
  refine (isNaN_unpack_pack a.toModel.unpack.neg).trans ?_
  cases unpacked : a.toModel.unpack with
  | notANumber =>
    rw [unpacked] at number
    cases number
  | _ => rfl

/-! ### Measures -/

/-- Whether a number is a number that does not lie below zero. -/
def Measures (a : Float) : Prop := IsMeasure a.toModel.unpack

theorem Measures.number (measures : Measures a) : Scalar.isNaN a = false :=
  number_iff.mpr (IsMeasure.number measures)

theorem Measures.of_unpacked {unpacked : UnpackedFloat} (measure : IsMeasure unpacked) :
    Measures (Float.ofModel (Float.Model.pack unpacked)) :=
  (leans_unpack_pack measure.number).isMeasure measure.side

theorem Measures.add (left : Measures a) (right : Measures b) : Measures (a + b) :=
  .of_unpacked (IsMeasure.add left right)

theorem Measures.root (measures : Measures a) : Measures (Scalar.root a) :=
  .of_unpacked (IsMeasure.sqrt measures)

theorem Measures.mul_self (measures : Measures a) : Measures (a * a) := by
  refine ⟨number_iff.mp (number_mul_self measures.number), ?_⟩
  rcases side_mul a a with same | zero
  · exact (mul_self_nonneg (side a)).trans_eq same.symm
  · exact zero.ge

/-- The larger one of a number and zero. -/
theorem measures_greater_zero (a : Float) : Measures (Scalar.greater a 0.0) := by
  unfold Scalar.greater
  split
  · rename_i above
    have positive : 0.0 < a := above.resolve_right (by decide +kernel)
    refine ⟨number_iff.mp (numbers_of_lt positive).2, ?_⟩
    rw [show unpackedSide a.toModel.unpack = 1 from zero_lt_iff.mp positive]
    decide
  · exact ⟨rfl, le_rfl⟩

end DesignRules.Decimal
