import Mathlib.Algebra.Order.Field.Power
import Mathlib.Algebra.Order.Floor.Semifield
import Mathlib.Data.Rat.Floor
import Mathlib.Tactic.Linarith
import Mathlib.Tactic.Positivity
import Mathlib.Tactic.Ring
import Reckon.Decimal.Arithmetic

/-! Decimals as rational numbers. How many digits a coefficient has says how large its number is, so
a bound on the number is enough for a result to fit into a precision unchanged and for its cut to
a given place to succeed. -/
namespace Reckon.Decimal
open Digits (signed width)

/-- The number that a finite decimal stands for. -/
def value : Decimal → ℚ
  | .finite negative coefficient exponent => signed negative coefficient * 10 ^ exponent
  | _ => 0

/-- The number without the digits that follow the first `places` after the point. -/
def chop (places : Int) (q : ℚ) : ℚ :=
  (if 0 ≤ q then ⌊q * 10 ^ places⌋ else ⌈q * 10 ^ places⌉) / 10 ^ places

variable {n precision : Nat} {e k place digits : Int} {q : ℚ}

theorem ten_zpow_pos (k : Int) : (0 : ℚ) < 10 ^ k := by positivity

theorem ten_zpow_add (k l : Int) : (10 : ℚ) ^ (k + l) = 10 ^ k * 10 ^ l :=
  zpow_add₀ (by norm_num) k l

/-- Powers with a nonnegative exponent, as they are computed. -/
theorem ten_pow_toNat (nonneg : 0 ≤ k) : (10 : ℚ) ^ k.toNat = 10 ^ k := by
  rw [← zpow_natCast, Int.toNat_of_nonneg nonneg]

theorem cast_signed (negative : Bool) (n : Nat) :
    ((signed negative n : Int) : ℚ) = if negative then -(n : ℚ) else n := by
  cases negative <;> simp [signed]

theorem value_negate (x : Decimal) : x.negate.value = -x.value := by
  cases x with
  | finite negative coefficient exponent => cases negative <;> simp [negate, value, signed]
  | infinite negative => simp [negate, value]
  | nan negative signaling payload => simp [negate, value]

theorem abs_value (negative : Bool) (coefficient : Nat) (exponent : Int) :
    |value (.finite negative coefficient exponent)| = coefficient * 10 ^ exponent := by
  rw [value, abs_mul, abs_of_pos (ten_zpow_pos exponent), cast_signed]
  cases negative <;> simp

/-- Digits count orders of magnitude. -/
theorem lt_zpow_iff (nonzero : n ≠ 0) : (n : ℚ) * 10 ^ e < 10 ^ k ↔ e + width n ≤ k := by
  have scaled : (n : ℚ) * 10 ^ e < 10 ^ k ↔ (n : ℚ) < 10 ^ (k - e) := by
    rw [zpow_sub₀ (by norm_num), lt_div_iff₀ (ten_zpow_pos e)]
  rw [scaled]
  by_cases positive : 0 < k - e
  · rw [← ten_pow_toNat positive.le]
    have counted : n < 10 ^ (k - e).toNat ↔ width n ≤ (k - e).toNat :=
      (Digits.width_le_iff (by omega)).symm
    have cast : (n : ℚ) < 10 ^ (k - e).toNat ↔ n < 10 ^ (k - e).toNat := by norm_cast
    rw [cast, counted]
    omega
  · have one : (1 : ℚ) ≤ n := by exact_mod_cast Nat.one_le_iff_ne_zero.2 nonzero
    have small : (10 : ℚ) ^ (k - e) ≤ 1 := zpow_le_one_of_nonpos₀ (by norm_num) (by omega)
    have := Digits.width_pos n
    constructor
    · intro below
      linarith
    · intro below
      omega

theorem width_zero : width 0 = 1 := by decide

theorem maxExponent_nonneg : 0 ≤ maxExponent := by decide

/-- A precision reaches as many places below the point as it has digits. -/
theorem leastPlace_le (near : -place ≤ precision) : leastPlace precision ≤ place := by
  have : minExponent = -999999 := rfl
  simp only [leastPlace]
  omega

theorem fit_exact (negative : Bool) (room : width n ≤ precision) (low : leastPlace precision ≤ e)
    (high : (n : ℚ) * 10 ^ e < 10 ^ (maxExponent + 1)) :
    ∃ e', fit precision negative n e = .ok (.finite negative n e') ∧ (n = 0 ∨ e' = e) := by
  by_cases zero : n = 0
  · subst zero
    exact ⟨_, rfl, .inl rfl⟩
  · have top := (lt_zpow_iff zero).1 high
    have within : ¬ maxExponent < e + width n - 1 := by omega
    have whole : ¬ e < max (leastPlace precision) (e + width n - precision) := by omega
    exact ⟨e, by simp only [fit, zero, within, whole, reduceIte], .inr rfl⟩

/-- Moving the last digit to a place leaves the whole part of the number in units of that place. -/
theorem drop_eq_floor (n : Nat) (e place : Int) :
    Digits.drop (n * 10 ^ (e - place).toNat) (place - e).toNat =
      ⌊(n : ℚ) * 10 ^ (e - place)⌋₊ := by
  rw [Digits.drop_eq_div, ← Nat.floor_div_eq_div (K := ℚ)]
  congr 1
  push_cast
  by_cases up : place ≤ e
  · have none : (place - e).toNat = 0 := by omega
    rw [none, pow_zero, div_one, ten_pow_toNat (by omega)]
  · have none : (e - place).toNat = 0 := by omega
    have flip : e - place = -(place - e) := by omega
    rw [none, pow_zero, mul_one, ten_pow_toNat (by omega), flip, zpow_neg, div_eq_mul_inv]

theorem quantize_finite (negative : Bool) (low : leastPlace precision ≤ place)
    (top : place ≤ maxExponent) (room : (n : ℚ) * 10 ^ e < 10 ^ (precision + place))
    (high : (n : ℚ) * 10 ^ e < 10 ^ (maxExponent + 1)) :
    quantize precision place (.finite negative n e) =
      .ok (.finite negative ⌊(n : ℚ) * 10 ^ (e - place)⌋₊ place) := by
  have range : ¬ (place < leastPlace precision ∨ maxExponent < place) := by omega
  by_cases zero : n = 0
  · subst zero
    simp [quantize, nanResult?, range]
  · have enough := (lt_zpow_iff zero).1 room
    have fits : ¬ (precision : Int) < width n + e - place := by omega
    have kept : ¬ maxExponent < place + width ⌊(n : ℚ) * 10 ^ (e - place)⌋₊ - 1 := by
      by_cases gone : ⌊(n : ℚ) * 10 ^ (e - place)⌋₊ = 0
      · rw [gone, width_zero]
        omega
      · have below : (⌊(n : ℚ) * 10 ^ (e - place)⌋₊ : ℚ) * 10 ^ place < 10 ^ (maxExponent + 1) := by
          calc (⌊(n : ℚ) * 10 ^ (e - place)⌋₊ : ℚ) * 10 ^ place
              ≤ (n : ℚ) * 10 ^ (e - place) * 10 ^ place := by
                gcongr
                exact Nat.floor_le (by positivity)
            _ = (n : ℚ) * 10 ^ e := by rw [mul_assoc, ← ten_zpow_add, sub_add_cancel]
            _ < 10 ^ (maxExponent + 1) := high
        have := (lt_zpow_iff gone).1 below
        omega
    simp [quantize, nanResult?, range, zero, fits, drop_eq_floor, kept]

theorem fractionPlace_ok (positive : 1 ≤ digits) (le : digits ≤ (precision : Int)) :
    fractionPlace precision digits = .ok (-digits) := by
  have := maxExponent_nonneg
  have near : ¬ 2 * (maxExponent + precision) < digits.natAbs := by omega
  have room : width 1 ≤ precision := by
    have : width 1 = 1 := by decide
    omega
  have low : leastPlace precision ≤ -digits := leastPlace_le (by omega)
  have high : ((1 : Nat) : ℚ) * 10 ^ (-digits) < 10 ^ (maxExponent + 1) := by
    rw [Nat.cast_one, one_mul]
    exact zpow_lt_zpow_right₀ (by norm_num) (by omega)
  obtain ⟨e, fitted, zero | rfl⟩ := fit_exact false room low high
  · cases zero
  · simp only [fractionPlace, near, reduceIte, fitted]

/-- A number that is small enough for the precision is cut to its fraction digits. -/
theorem truncate_finite (negative : Bool) (positive : 1 ≤ digits) (le : digits ≤ (precision : Int))
    (room : (n : ℚ) * 10 ^ e < 10 ^ (precision - digits))
    (high : (n : ℚ) * 10 ^ e < 10 ^ (maxExponent + 1)) :
    truncate precision digits (.finite negative n e) =
      .ok (.finite negative ⌊(n : ℚ) * 10 ^ (e + digits)⌋₊ (-digits)) := by
  have low : leastPlace precision ≤ -digits := leastPlace_le (by omega)
  have top : -digits ≤ maxExponent := by
    have := maxExponent_nonneg
    omega
  rw [truncate, fractionPlace_ok positive le]
  have cut := quantize_finite negative low top room high
  rw [sub_neg_eq_add] at cut
  exact cut

theorem chop_neg (places : Int) (q : ℚ) : chop places (-q) = -chop places q := by
  simp only [chop]
  rcases lt_trichotomy q 0 with below | rfl | above
  · have : 0 ≤ -q := by linarith
    have : ¬ 0 ≤ q := by linarith
    simp only [*, reduceIte, neg_mul, Int.floor_neg]
    push_cast
    ring
  · simp
  · have : ¬ 0 ≤ -q := by linarith
    have : 0 ≤ q := above.le
    simp only [*, reduceIte, neg_mul, Int.ceil_neg]
    push_cast
    ring

theorem value_signed (negative : Bool) (n : Nat) (e : Int) :
    value (.finite negative n e) = if negative then -((n : ℚ) * 10 ^ e) else (n : ℚ) * 10 ^ e := by
  cases negative <;> simp [value, signed]

/-- A coefficient rounded down to the last of its fraction digits is chopped there, whatever its
sign. -/
theorem value_floor (negative : Bool) (nonneg : 0 ≤ q) (digits : Int) :
    value (.finite negative ⌊q * 10 ^ digits⌋₊ (-digits)) =
      chop digits (if negative then -q else q) := by
  have plain : (⌊q * 10 ^ digits⌋₊ : ℚ) * 10 ^ (-digits) = chop digits q := by
    have whole : ((⌊q * 10 ^ digits⌋₊ : Nat) : ℚ) = ((⌊q * 10 ^ digits⌋ : Int) : ℚ) :=
      natCast_floor_eq_intCast_floor (by positivity)
    rw [chop, if_pos nonneg, whole, zpow_neg, div_eq_mul_inv]
  rw [value_signed, plain]
  cases negative with
  | false => rfl
  | true => exact (chop_neg digits q).symm

/-- The cut has the value that is chopped off at the same place. -/
theorem value_chop (negative : Bool) (n : Nat) (e digits : Int) :
    value (.finite negative ⌊(n : ℚ) * 10 ^ (e + digits)⌋₊ (-digits)) =
      chop digits (value (.finite negative n e)) := by
  rw [value_signed negative n e, ← value_floor negative (by positivity), mul_assoc, ten_zpow_add]

end Reckon.Decimal
