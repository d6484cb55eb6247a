import Reckon.Expr.Evaluation
import Reckon.Proofs.Magnitude
import Reckon.Proofs.Precision

/-! Sums, differences and products of decimals. The digits that an operation works with hold the
result in full, so it is exact until it is cut, once, to the fraction digits of the precision. -/
namespace Reckon

namespace Decimal
open Digits (signed width)
open Operation (span)

/-- The digits that any number of this magnitude has before the point, at least one. -/
def whole (x : Decimal) : Int := max x.adjusted 0 + 1

/-- The digits after the point. -/
def fraction : Decimal → Int
  | .finite _ _ exponent => max (-exponent) 0
  | _ => 0

theorem whole_pos (x : Decimal) : 1 ≤ x.whole := by
  simp only [whole]
  omega

theorem fraction_nonneg (x : Decimal) : 0 ≤ x.fraction := by
  simp only [fraction]
  split <;> omega

theorem span_eq (finite : x.isFinite = true) : span x = x.whole + x.fraction := by
  cases x with
  | finite => rfl
  | infinite => cases finite
  | nan => cases finite

theorem abs_lt_whole (x : Decimal) : |x.value| < 10 ^ x.whole := by
  cases x with
  | finite negative n e =>
    rw [abs_value]
    by_cases zero : n = 0
    · rw [zero, Nat.cast_zero, zero_mul]
      exact ten_zpow_pos _
    · rw [lt_zpow_iff zero]
      simp only [whole, adjusted]
      omega
  | infinite negative => simpa [value] using ten_zpow_pos _
  | nan negative signaling payload => simpa [value] using ten_zpow_pos _

/-- A result that has no more digits on either side of the point than its operands have together
is not rounded where there is room for both of them. -/
theorem fit_performs {x y : Decimal} (finite : x.isFinite = true) (finite' : y.isFinite = true)
    (exactly : value (.finite negative n e) = q) (last : -(x.fraction + y.fraction) ≤ e)
    (first : |q| < 10 ^ (x.whole + y.whole)) (room : span x + span y ≤ (places : Nat))
    (high : |q| < 10 ^ (maxExponent + 1)) :
    ∃ sign m f, fit places negative n e = .ok (.finite sign m f) ∧
      value (.finite sign m f) = q := by
  rw [span_eq finite, span_eq finite'] at room
  have := x.whole_pos
  have := y.whole_pos
  have := x.fraction_nonneg
  have := y.fraction_nonneg
  rw [← exactly, abs_value] at first high
  have few : width n ≤ places := by
    by_cases zero : n = 0
    · rw [zero, width_zero]
      omega
    · have := (lt_zpow_iff zero).1 first
      omega
  have low : leastPlace places ≤ e := leastPlace_le (by omega)
  obtain ⟨e', fitted, zero | same⟩ := fit_exact negative few low high
  · refine ⟨negative, n, e', fitted, ?_⟩
    rw [← exactly, zero]
    cases negative <;> simp [value, signed]
  · rw [same] at fitted
    exact ⟨negative, n, e, fitted, exactly⟩

/-- With room for both operands the operation gives finite decimals their exact result, and it has
no more digits before the point than they have together. -/
structure Performs (perform : Nat → Decimal → Decimal → Except Signal Decimal)
    (exact : ℚ → ℚ → ℚ) : Prop where
  bounded : ∀ x y : Decimal, |exact x.value y.value| < 10 ^ (x.whole + y.whole)
  performed : ∀ (places : Nat) (x y : Decimal), x.isFinite = true → y.isFinite = true →
    span x + span y ≤ places → |exact x.value y.value| < 10 ^ (maxExponent + 1) →
      ∃ sign m f, perform places x y = .ok (.finite sign m f) ∧
        value (.finite sign m f) = exact x.value y.value

theorem add_bounded (x y : Decimal) : |x.value + y.value| < 10 ^ (x.whole + y.whole) := by
  have ten (z : Decimal) : (10 : ℚ) ≤ 10 ^ z.whole := by
    calc (10 : ℚ) = 10 ^ (1 : Int) := (zpow_one 10).symm
      _ ≤ 10 ^ z.whole := zpow_le_zpow_right₀ (by norm_num) z.whole_pos
  calc |x.value + y.value| ≤ |x.value| + |y.value| := abs_add_le _ _
    _ < 10 ^ x.whole + 10 ^ y.whole := add_lt_add (abs_lt_whole x) (abs_lt_whole y)
    _ ≤ 10 ^ x.whole * 10 ^ y.whole := by nlinarith [ten x, ten y]
    _ = 10 ^ (x.whole + y.whole) := (ten_zpow_add _ _).symm

theorem mul_bounded (x y : Decimal) : |x.value * y.value| < 10 ^ (x.whole + y.whole) := by
  rw [abs_mul, ten_zpow_add]
  exact mul_lt_mul'' (abs_lt_whole x) (abs_lt_whole y) (abs_nonneg _) (abs_nonneg _)

theorem signed_natAbs (n : Int) (sign : Bool) :
    signed (if n = 0 then sign else n < 0) n.natAbs = n := by
  by_cases zero : n = 0
  · subst zero
    cases sign <;> rfl
  · by_cases below : n < 0
    · simp only [zero, below, reduceIte, signed, decide_true]
      omega
    · simp only [zero, below, reduceIte, signed, decide_false, Bool.false_eq_true]
      omega

theorem scaled_value (negative : Bool) (n : Nat) (le : place ≤ e) :
    ((signed negative n * 10 ^ (e - place).toNat : Int) : ℚ) * 10 ^ place =
      value (.finite negative n e) := by
  push_cast
  rw [ten_pow_toNat (by omega), mul_assoc, ← ten_zpow_add, sub_add_cancel]
  rfl

theorem sum_value (a b : Bool) (m n : Nat) (e f : Int) :
    ((signed a m * 10 ^ (e - min e f).toNat + signed b n * 10 ^ (f - min e f).toNat : Int) : ℚ) *
      10 ^ min e f = value (.finite a m e) + value (.finite b n f) := by
  rw [Int.cast_add, add_mul, scaled_value a m (Int.min_le_left e f),
    scaled_value b n (Int.min_le_right e f)]

theorem add_performs : Performs add (· + ·) where
  bounded := add_bounded
  performed := by
    rintro places (⟨a, m, e⟩ | _ | _) (⟨b, n, f⟩ | _ | _) ⟨⟩ ⟨⟩ room high
    have total := sum_value a b m n e f
    simp only [add, nanResult?, Option.getD_none]
    generalize signed a m * 10 ^ (e - min e f).toNat +
      signed b n * 10 ^ (f - min e f).toNat = sum at total ⊢
    refine fit_performs rfl rfl ?_ ?_ (add_bounded _ _) room high
    · rw [value, signed_natAbs, total]
    · simp only [fraction]
      omega

theorem sub_performs : Performs sub (· - ·) where
  bounded x y := by
    have bounded := add_bounded x y.negate
    have same : y.negate.whole = y.whole := by cases y <;> rfl
    rwa [value_negate, ← sub_eq_add_neg, same] at bounded
  performed := by
    intro places x y finite finite' room high
    have same : span y.negate = span y := by cases y <;> rfl
    have finite'' : y.negate.isFinite = true := by cases y <;> exact finite'
    have performed := add_performs.performed places x y.negate finite finite''
    simp only [value_negate, ← sub_eq_add_neg, same] at performed
    exact performed room high

theorem mul_performs : Performs mul (· * ·) where
  bounded := mul_bounded
  performed := by
    rintro places (⟨a, m, e⟩ | _ | _) (⟨b, n, f⟩ | _ | _) ⟨⟩ ⟨⟩ room high
    simp only [mul, nanResult?, Option.getD_none]
    refine fit_performs rfl rfl ?_ ?_ (mul_bounded _ _) room high
    · simp only [value, ten_zpow_add, cast_signed]
      cases a <;> cases b <;> simp <;> ring
    · simp only [fraction]
      omega

end Decimal

namespace Operation
open Decimal

/-- The number is `q` in full or, under a precision, what its fraction digits keep of it. -/
def Kept (precision : Precision) (q : ℚ) (number : Decimal) : Prop :=
  match precision with
  | none => number.isFinite = true ∧ number.value = q
  | some places =>
    (∃ negative n, number = .finite negative n (-places)) ∧ number.value = chop places q

theorem cut_kept {working : Nat} {q : ℚ} (positive : precision.Positive)
    (exactly : value (.finite negative n e) = q) (enough : precision.getD 0 ≤ (working : Int))
    (room : |q| < 10 ^ ((working : Int) - precision.getD 0))
    (high : |q| < 10 ^ (maxExponent + 1)) :
    ∃ z, cut working precision (.finite negative n e) = .ok z ∧ Kept precision q z := by
  cases precision with
  | none => exact ⟨_, rfl, rfl, exactly⟩
  | some places =>
    rw [← exactly, abs_value] at room high
    have done := truncate_finite negative (positive places rfl) enough room high
    exact ⟨_, done, ⟨_, _, rfl⟩, exactly ▸ value_chop negative n e places⟩

variable {a b : Value}

/-- The digits that an exact operation works with: those of both operands and those kept, each of
which there may be none of, and the guard digits. -/
theorem exactDigits_eq (precision : Precision) (first : x.isFinite = true)
    (second : y.isFinite = true) :
    exactDigits precision x y =
      x.whole + x.fraction + (y.whole + y.fraction) + precision.getD 0 + 28 := by
  rw [exactDigits, span_eq first, span_eq second]
  rfl

theorem decimals_kept {exact : ℚ → ℚ → ℚ} (performs : Performs perform exact)
    (fixed : b.digits?.or a.digits? = some tag) (first : a.toDecimal.isFinite = true)
    (second : b.toDecimal.isFinite = true) (positive : precision.Positive)
    (high : |exact a.toDecimal.value b.toDecimal.value| < 10 ^ (maxExponent + 1))
    (room : exactDigits precision a.toDecimal b.toDecimal ≤ Precision.greatest) :
    ∃ number, decimals perform exactDigits precision a b = some (.ok (.fixed number tag)) ∧
      Kept precision (exact a.toDecimal.value b.toDecimal.value) number := by
  generalize left : a.toDecimal = x at *
  generalize right : b.toDecimal = y at *
  have digits := exactDigits_eq precision first second
  have := x.whole_pos
  have := y.whole_pos
  have := x.fraction_nonneg
  have := y.fraction_nonneg
  have := positive.getD_nonneg
  obtain ⟨places, checked, same⟩ := Precision.check_places (by omega) room
  have spans : span x + span y ≤ (places : Int) := by
    rw [span_eq first, span_eq second]
    omega
  obtain ⟨sign, m, f, done, exactly⟩ := performs.performed places x y first second spans high
  have bounded : |exact x.value y.value| < 10 ^ ((places : Int) - precision.getD 0) := by
    refine (performs.bounded x y).trans_le (zpow_le_zpow_right₀ (by norm_num) ?_)
    omega
  obtain ⟨z, cut, kept⟩ := cut_kept positive exactly (by omega) bounded high
  exact ⟨z, by simp [decimals, fixed, left, right, checked, done, cut], kept⟩

/-- The result of an operation with a fixed decimal carries the digits of one. -/
theorem exists_tag (fixed : a.digits?.isSome ∨ b.digits?.isSome) :
    ∃ tag, b.digits?.or a.digits? = some tag := by
  rw [← Option.isSome_iff_exists, Option.isSome_or, Bool.or_eq_true]
  exact fixed.symm

theorem combine_kept {exact : ℚ → ℚ → ℚ} (performs : Performs perform exact) (name : String)
    (fixed : a.digits?.isSome ∨ b.digits?.isSome) (first : a.toDecimal.isFinite = true)
    (second : b.toDecimal.isFinite = true) (positive : precision.Positive)
    (high : |exact a.toDecimal.value b.toDecimal.value| < 10 ^ (maxExponent + 1))
    (room : exactDigits precision a.toDecimal b.toDecimal ≤ Precision.greatest)
    (onWords : Int → Int → Int) (onFloats : Binary64 → Binary64 → Except Fault Binary64) :
    ∃ number tag, b.digits?.or a.digits? = some tag ∧
      Evaluation.combine [words onWords, decimals perform exactDigits, floats onFloats] name
        precision a b = .ok (.fixed number tag) ∧
      Kept precision (exact a.toDecimal.value b.toDecimal.value) number := by
  obtain ⟨tag, tagged⟩ := exists_tag fixed
  obtain ⟨number, covered, kept⟩ :=
    decimals_kept performs tagged first second positive high room
  have uncovered : words onWords precision a b = none := by
    cases a <;> cases b <;> first | rfl | cases tagged
  refine ⟨number, tag, tagged, ?_, kept⟩
  simp [Evaluation.combine, result?, List.findSome?, uncovered, covered]

/-- The operations that are exact on decimals, each with its rules. -/
inductive Exact : List Rule → (ℚ → ℚ → ℚ) → Prop where
  | addition : Exact addition (· + ·)
  | subtraction : Exact subtraction (· - ·)
  | multiplication : Exact multiplication (· * ·)

/-- A sum, difference or product with a fixed decimal among its operands is computed in full, and
only then cut to the fraction digits of the precision. -/
theorem combine_exact {exact : ℚ → ℚ → ℚ} (table : Exact rules exact) (name : String)
    (fixed : a.digits?.isSome ∨ b.digits?.isSome) (first : a.toDecimal.isFinite = true)
    (second : b.toDecimal.isFinite = true) (positive : precision.Positive)
    (high : |exact a.toDecimal.value b.toDecimal.value| < 10 ^ (maxExponent + 1))
    (room : exactDigits precision a.toDecimal b.toDecimal ≤ Precision.greatest) :
    ∃ number tag, b.digits?.or a.digits? = some tag ∧
      Evaluation.combine rules name precision a b = .ok (.fixed number tag) ∧
      Kept precision (exact a.toDecimal.value b.toDecimal.value) number := by
  cases table with
  | addition => exact combine_kept add_performs name fixed first second positive high room _ _
  | subtraction => exact combine_kept sub_performs name fixed first second positive high room _ _
  | multiplication =>
    exact combine_kept mul_performs name fixed first second positive high room _ _

def factor : Value := .fixed (.finite false 15 (-1)) 1

def cofactor : Value := .fixed (.finite false 125 (-2)) 2

/-- Of the product of 1.5 and 1.25, which is 1.875, two fraction digits keep 1.87. -/
theorem combine_exact_product : ∃ number,
    Evaluation.combine multiplication "Multiplication" (some 2) factor cofactor =
      .ok (.fixed number 2) ∧
    (∃ negative n, number = .finite negative n (-2)) ∧ number.value = 187 / 100 := by
  have one : factor.toDecimal.value = 15 / 10 := by
    norm_num [factor, Value.toDecimal, value, Digits.signed]
  have two : cofactor.toDecimal.value = 125 / 100 := by
    norm_num [cofactor, Value.toDecimal, value, Digits.signed]
  have small : |factor.toDecimal.value * cofactor.toDecimal.value| <
      10 ^ (maxExponent + 1) := by
    calc |factor.toDecimal.value * cofactor.toDecimal.value|
        < 10 ^ (1 : Int) := by rw [one, two]; norm_num
      _ ≤ 10 ^ (maxExponent + 1) := zpow_le_zpow_right₀ (by norm_num) (by decide)
  have room : exactDigits (some 2) factor.toDecimal cofactor.toDecimal ≤ Precision.greatest := by
    decide
  have positive : Precision.Positive (some 2) := by
    rintro _ ⟨⟩
    decide
  obtain ⟨number, tag, tagged, result, form, cut⟩ :=
    combine_exact .multiplication "Multiplication" (.inl rfl) rfl rfl positive small room
  cases tagged
  have kept : chop 2 (15 / 10 * (125 / 100)) = 187 / 100 := by norm_num [chop]
  rw [one, two, kept] at cut
  exact ⟨number, result, form, cut⟩

end Operation
end Reckon
