import Reckon.Proofs.Quotient
import Reckon.Proofs.Shortest

/-! Division of values under a precision. A divisor is refused exactly when its decimal is zero, and
the digits that every other division works with suffice for the cut that follows. -/
namespace Reckon

/-- The written form of a number is zero only for the zeros. -/
theorem Decimal.written_eq_zero_iff {x : Binary64} (finite : (written x).isFinite = true) :
    (written x).value = 0 ↔ x.isZero = true := by
  cases x with
  | finite negative significand exponent canonical =>
    simp only [written, value_eq_zero_iff, Binary64.isZero, decide_eq_true_eq]
    split
    · rw [Binary64.Scientific.positional_eq_zero_iff, Binary64.shortest_eq_zero_iff canonical]
    · exact Binary64.shortest_eq_zero_iff canonical
  | infinite negative => cases finite
  | nan => cases finite

/-- Comparing a value with zero compares its decimal. -/
theorem Value.isZero_eq {v : Value} (finite : v.toDecimal.isFinite = true) :
    v.isZero = .ok (decide (v.toDecimal.value = 0)) := by
  cases v with
  | integer n =>
    simp only [isZero, toDecimal, Decimal.ofInt, Decimal.value_eq_zero_iff, Int.natAbs_eq_zero]
  | float x =>
    simp only [isZero, toDecimal, Decimal.written_eq_zero_iff finite, Bool.decide_eq_true]
  | fixed number digits =>
    cases number with
    | finite negative n e => simp only [isZero, toDecimal, Decimal.value_eq_zero_iff]
    | infinite negative => cases finite
    | nan negative signaling payload => cases finite

namespace Operation
open Decimal

variable {a b : Value} {places : Int}

theorem decimals_quotient (fixed : b.digits?.or a.digits? = some tag)
    (first : a.toDecimal.isFinite = true) (second : b.toDecimal.isFinite = true)
    (divisor : b.toDecimal.value ≠ 0) (positive : 1 ≤ places)
    (high : |a.toDecimal.value / b.toDecimal.value| < 10 ^ (maxExponent + 1))
    (room : quotientDigits (some places) a.toDecimal b.toDecimal ≤ Precision.greatest) :
    ∃ number, decimals div quotientDigits (some places) a b = some (.ok (.fixed number tag)) ∧
      Kept (some places) (a.toDecimal.value / b.toDecimal.value) number := by
  generalize left : a.toDecimal = x at *
  generalize right : b.toDecimal = y at *
  have digits : quotientDigits (some places) x y =
      max (x.adjusted - y.adjusted) 0 + 2 + places + 28 := rfl
  obtain ⟨working, checked, same⟩ := Precision.check_places (by omega) room
  have low : leastPlace working ≤ -places := leastPlace_le (by omega)
  have bounded : |x.value / y.value| < 10 ^ ((working : Int) - places) := by
    refine (div_bounded first second divisor).trans_le (zpow_le_zpow_right₀ (by norm_num) ?_)
    omega
  obtain ⟨negative, n, e, done, agrees⟩ := div_agrees first second divisor low bounded high
  have asked : Precision.Positive (some places) := by
    rintro _ ⟨⟩
    exact positive
  have enough : (some places : Precision).getD 0 ≤ (working : Int) := by
    rw [Option.getD_some]
    omega
  obtain ⟨z, cut, form, kept⟩ := cut_kept asked rfl enough (agrees.bounded.trans_lt bounded)
    (agrees.bounded.trans_lt high)
  refine ⟨z, ?_, form, kept.trans agrees.same⟩
  simp [decimals, fixed, left, right, checked, done, cut]

end Operation

namespace Evaluation
open Decimal
open Operation (Kept quotientDigits)

variable {a b : Value} {places : Int}

theorem divide_zero (precision : Precision) (a : Value) (finite : b.toDecimal.isFinite = true)
    (zero : b.toDecimal.value = 0) :
    divide precision a b = .error (.evaluation .divisionByZero) := by
  simp [divide, Value.isZero_eq finite, zero]

theorem divide_kept (fixed : a.digits?.isSome ∨ b.digits?.isSome)
    (first : a.toDecimal.isFinite = true) (second : b.toDecimal.isFinite = true)
    (divisor : b.toDecimal.value ≠ 0) (positive : 1 ≤ places)
    (high : |a.toDecimal.value / b.toDecimal.value| < 10 ^ (maxExponent + 1))
    (room : quotientDigits (some places) a.toDecimal b.toDecimal ≤ Precision.greatest) :
    ∃ number tag, b.digits?.or a.digits? = some tag ∧
      divide (some places) a b = .ok (.fixed number tag) ∧
      Kept (some places) (a.toDecimal.value / b.toDecimal.value) number := by
  obtain ⟨tag, tagged⟩ := Operation.exists_tag fixed
  obtain ⟨number, covered, kept⟩ :=
    Operation.decimals_quotient tagged first second divisor positive high room
  refine ⟨number, tag, tagged, ?_, kept⟩
  simp [divide, Value.isZero_eq second, divisor, combine, Operation.result?, Operation.division,
    covered]

/-- A fixed decimal divided by anything but zero, or anything divided by one, is the exact quotient
cut once, toward zero, to the fraction digits of the precision; a divisor of zero is refused. -/
theorem evaluate_quotient (left right : Expr) (first : evaluate (some places) left = .ok a)
    (second : evaluate (some places) right = .ok b)
    (fixed : a.digits?.isSome ∨ b.digits?.isSome) (finite : a.toDecimal.isFinite = true)
    (finite' : b.toDecimal.isFinite = true) (positive : 1 ≤ places) :
    (b.toDecimal.value = 0 → ∃ e : Error, e.reason = "Cannot divide by 0 (zero)" ∧
      evaluate (some places) (.binary .div left right) = .error (.evaluation e)) ∧
    (b.toDecimal.value ≠ 0 →
      |a.toDecimal.value / b.toDecimal.value| < 10 ^ (maxExponent + 1) →
      quotientDigits (some places) a.toDecimal b.toDecimal ≤ Precision.greatest →
      ∃ number tag, b.digits?.or a.digits? = some tag ∧
        evaluate (some places) (.binary .div left right) = .ok (.fixed number tag) ∧
        (∃ negative n, number = .finite negative n (-places)) ∧
        number.value = chop places (a.toDecimal.value / b.toDecimal.value)) := by
  have operated : evaluate (some places) (.binary .div left right) = divide (some places) a b := by
    simp [evaluate, first, second, operate]
  rw [operated]
  constructor
  · intro zero
    exact ⟨.divisionByZero, rfl, divide_zero _ _ finite' zero⟩
  · intro divisor high room
    exact divide_kept fixed finite finite' divisor positive high room

def two : Value := .fixed (.finite false 2 0) 5

def signedZero : Value := .fixed (.finite true 0 5) 1

/-- Of two thirds, three fraction digits keep 0.666; a zero with a sign and an exponent is refused
as a divisor. -/
theorem evaluate_quotient_thirds :
    (∃ number, evaluate (some 3) (.binary .div (.value two) (.value (.integer 3))) =
        .ok (.fixed number 5) ∧
      (∃ negative n, number = .finite negative n (-3)) ∧ number.value = 666 / 1000) ∧
    ∃ e : Error, e.reason = "Cannot divide by 0 (zero)" ∧
      evaluate (some 3) (.binary .div (.value two) (.value signedZero)) =
        .error (.evaluation e) := by
  constructor
  · have numerator : two.toDecimal.value = 2 := by
      norm_num [two, Value.toDecimal, value, Digits.signed]
    have denominator : (Value.integer 3).toDecimal.value = 3 := by
      norm_num [Value.toDecimal, ofInt, value, Digits.signed]
    have small : |two.toDecimal.value / (Value.integer 3).toDecimal.value| <
        10 ^ (maxExponent + 1) := by
      calc |two.toDecimal.value / (Value.integer 3).toDecimal.value|
          < 10 ^ (0 : Int) := by rw [numerator, denominator]; norm_num [abs_of_pos]
        _ ≤ 10 ^ (maxExponent + 1) := zpow_le_zpow_right₀ (by norm_num) (by decide)
    have room : quotientDigits (some 3) two.toDecimal (Value.integer 3).toDecimal ≤
        Precision.greatest := by decide
    have divisor : (Value.integer 3).toDecimal.value ≠ 0 := by norm_num [denominator]
    obtain ⟨number, tag, tagged, result, form, cut⟩ :=
      (evaluate_quotient (.value two) (.value (.integer 3)) rfl rfl (.inl rfl) rfl rfl
        (by decide)).2 divisor small room
    cases tagged
    have kept : chop 3 (2 / 3) = 666 / 1000 := by norm_num [chop]
    rw [numerator, denominator, kept] at cut
    exact ⟨number, result, form, cut⟩
  · have zero : signedZero.toDecimal.value = 0 := by
      norm_num [signedZero, Value.toDecimal, value, Digits.signed]
    exact (evaluate_quotient (.value two) (.value signedZero) rfl rfl (.inl rfl) rfl rfl
      (by decide)).1 zero

end Evaluation
end Reckon
