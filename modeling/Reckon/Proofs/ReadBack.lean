import Mathlib.Data.Int.Log
import Mathlib.Data.Nat.Prime.Basic
import Mathlib.Tactic.FieldSimp
import Reckon.Proofs.Numeral
import Reckon.Proofs.Quotient
import Reckon.Proofs.Shortest

/-! What is written is read back. Rounding looks at a number as a ratio, whatever its terms are, so
all decimal forms of one number are read as the same; and the shortest form of a number is either
one that was seen to read as it or its exact value. -/
namespace Reckon

namespace Binary64

variable {n num den : Nat}

/-- A power with its negative exponent below the line. -/
theorem zpow_split (b : ℚ) (k : Int) :
    b ^ k = b ^ k.toNat / b ^ (-k).toNat := by
  rcases le_total 0 k with up | down
  · have none : (-k).toNat = 0 := by omega
    rw [none, pow_zero, div_one, ← zpow_natCast, Int.toNat_of_nonneg up]
  · have none : k.toNat = 0 := by omega
    have flip : k = -((-k).toNat : Int) := by omega
    rw [none, pow_zero, one_div, ← zpow_natCast, ← zpow_neg, ← flip]

/-- Whether a power of two is below a ratio, told by its terms. -/
theorem le_ratio_iff (nonzero : num ≠ 0) (nonzero' : den ≠ 0) (k : Int) :
    den * 2 ^ k.toNat ≤ num * 2 ^ (-k).toNat ↔ k ≤ Int.log 2 ((num : ℚ) / den) := by
  have below : (0 : ℚ) < den := by exact_mod_cast Nat.pos_of_ne_zero nonzero'
  have scale : (0 : ℚ) < 2 ^ (-k).toNat := by positivity
  rw [← Int.zpow_le_iff_le_log (by norm_num) (by positivity), Nat.cast_ofNat, zpow_split,
    div_le_div_iff₀ scale below, mul_comm]
  exact_mod_cast Iff.rfl

theorem log2_bounds (nonzero : n ≠ 0) :
    (2 : ℚ) ^ (n.log2 : Int) ≤ n ∧ (n : ℚ) < 2 ^ ((n.log2 : Int) + 1) := by
  constructor
  · exact_mod_cast Nat.log2_self_le nonzero
  · exact_mod_cast Nat.lt_log2_self (n := n)

/-- The guess from the bits of both terms is at most one too high. -/
theorem binade_eq_log (nonzero : num ≠ 0) (nonzero' : den ≠ 0) :
    binade num den = Int.log 2 ((num : ℚ) / den) := by
  have positive : (0 : ℚ) < den := by exact_mod_cast Nat.pos_of_ne_zero nonzero'
  have ratio : (0 : ℚ) < num / den := by positivity
  obtain ⟨low, high⟩ := log2_bounds nonzero
  obtain ⟨low', high'⟩ := log2_bounds nonzero'
  have above : Int.log 2 ((num : ℚ) / den) < (num.log2 : Int) - den.log2 + 1 := by
    rw [← Int.lt_zpow_iff_log_lt (by norm_num) ratio, div_lt_iff₀ positive]
    calc (num : ℚ) < 2 ^ ((num.log2 : Int) + 1) := high
      _ = 2 ^ ((num.log2 : Int) - den.log2 + 1) * 2 ^ (den.log2 : Int) := by
        rw [← zpow_add₀ two_ne_zero]; congr 1; omega
      _ ≤ 2 ^ ((num.log2 : Int) - den.log2 + 1) * den := by gcongr
  have below : (num.log2 : Int) - den.log2 - 1 ≤ Int.log 2 ((num : ℚ) / den) := by
    rw [← Int.zpow_le_iff_le_log (by norm_num) ratio, le_div_iff₀ positive]
    calc (2 : ℚ) ^ ((num.log2 : Int) - den.log2 - 1) * den
        ≤ 2 ^ ((num.log2 : Int) - den.log2 - 1) * 2 ^ ((den.log2 : Int) + 1) := by gcongr
      _ = 2 ^ (num.log2 : Int) := by rw [← zpow_add₀ two_ne_zero]; congr 1; omega
      _ ≤ num := low
  simp only [binade, le_ratio_iff nonzero nonzero']
  split <;> omega

theorem nearestEven_scale (num den : Nat) (positive : 0 < k) :
    nearestEven (num * k) (den * k) = nearestEven num den := by
  have left : 2 * (num % den * k) < den * k ↔ 2 * (num % den) < den := by
    rw [← Nat.mul_assoc]
    exact Nat.mul_lt_mul_right positive
  have right : den * k < 2 * (num % den * k) ↔ den < 2 * (num % den) := by
    rw [← Nat.mul_assoc]
    exact Nat.mul_lt_mul_right positive
  simp only [nearestEven, Nat.mul_div_mul_right num den positive, Nat.mul_mod_mul_right, left,
    right]

theorem ofRatio_scale (negative : Bool) (nonzero : den ≠ 0) (positive : 0 < k) :
    ofRatio negative (num * k) (den * k) = ofRatio negative num den := by
  by_cases zero : num = 0
  · simp [ofRatio, zero]
  · have given : num * k ≠ 0 := Nat.mul_ne_zero zero (Nat.ne_of_gt positive)
    have given' : den * k ≠ 0 := Nat.mul_ne_zero nonzero (Nat.ne_of_gt positive)
    have cast : (k : ℚ) ≠ 0 := by exact_mod_cast Nat.ne_of_gt positive
    have same : lastPlace (num * k) (den * k) = lastPlace num den := by
      rw [lastPlace, lastPlace, binade_eq_log given given', binade_eq_log zero nonzero,
        Nat.cast_mul, Nat.cast_mul, mul_div_mul_right _ _ cast]
    simp only [ofRatio, given, zero, reduceIte, same, Nat.mul_right_comm _ k,
      nearestEven_scale _ _ positive]

/-- Equal ratios are rounded to the same number. -/
theorem ofRatio_congr (negative : Bool) (nonzero : den ≠ 0) (nonzero' : den' ≠ 0)
    (same : num * den' = num' * den) : ofRatio negative num den = ofRatio negative num' den' := by
  rw [← ofRatio_scale negative nonzero (Nat.pos_of_ne_zero nonzero'), same,
    Nat.mul_comm den den', ofRatio_scale negative nonzero' (Nat.pos_of_ne_zero nonzero)]

/-- The number that the form stands for. -/
def Scientific.value (form : Scientific) : ℚ := form.coefficient * 10 ^ form.exponent

theorem Scientific.value_eq (form : Scientific) :
    form.value = Decimal.value (.finite false form.coefficient form.exponent) := by
  rw [Decimal.value_signed]
  rfl

theorem Scientific.value_eq_zero_iff (form : Scientific) :
    form.value = 0 ↔ form.coefficient = 0 := by
  rw [value_eq, Decimal.value_eq_zero_iff]

theorem Scientific.value_trim (form : Scientific) : form.trim.value = form.value := by
  simp only [trim]
  split
  case isTrue zero => simp [value, zero]
  case isFalse =>
    rw [value_eq, value_eq]
    exact Decimal.value_shorten false (Digits.pow_trailingZeros_dvd _) _

theorem Scientific.value_positional (form : Scientific) : form.positional.value = form.value := by
  simp only [positional]
  split
  case isTrue => rfl
  case isFalse whole =>
    simp only [value]
    push_cast
    rw [pow_succ, Decimal.ten_pow_toNat (by omega), zpow_neg_one, mul_assoc, mul_assoc,
      mul_inv_cancel₀ (by norm_num), mul_one]

theorem value_shown (form : Scientific) : (Numeral.shown form).value = form.value := by
  simp only [Numeral.shown]
  split
  · exact form.value_positional
  · rfl

/-- Where its first digit stands is a matter of the number, not of its form. -/
theorem magnitude_congr {form other : Scientific} (nonzero : form.coefficient ≠ 0)
    (same : form.value = other.value) :
    Digits.width form.coefficient + form.exponent =
      Digits.width other.coefficient + other.exponent := by
  have nonzero' : other.coefficient ≠ 0 := by
    rwa [ne_eq, ← Scientific.value_eq_zero_iff, ← same, Scientific.value_eq_zero_iff]
  have below (k : Int) : form.exponent + Digits.width form.coefficient ≤ k ↔
      other.exponent + Digits.width other.coefficient ≤ k := by
    rw [← Decimal.lt_zpow_iff nonzero, ← Decimal.lt_zpow_iff nonzero']
    exact iff_of_eq (congrArg (· < (10 : ℚ) ^ k) same)
  have := (below (form.exponent + Digits.width form.coefficient)).1 le_rfl
  have := (below (other.exponent + Digits.width other.coefficient)).2 le_rfl
  omega

/-- The terms of the number as a ratio. -/
theorem Scientific.value_ratio (form : Scientific) : form.value =
    (form.coefficient * 10 ^ form.exponent.toNat : Nat) / (10 ^ (-form.exponent).toNat : Nat) := by
  push_cast
  rw [value, zpow_split, mul_div_assoc]

theorem ofRatio_value {form other : Scientific} (negative : Bool)
    (same : form.value = other.value) :
    ofRatio negative (form.coefficient * 10 ^ form.exponent.toNat) (10 ^ (-form.exponent).toNat) =
      ofRatio negative (other.coefficient * 10 ^ other.exponent.toNat)
        (10 ^ (-other.exponent).toNat) := by
  have positive (k : Nat) : 10 ^ k ≠ 0 := Nat.ne_of_gt (Nat.pow_pos (by decide))
  refine ofRatio_congr negative (positive _) (positive _) ?_
  rw [Scientific.value_ratio, Scientific.value_ratio, div_eq_div_iff
    (by exact_mod_cast positive _) (by exact_mod_cast positive _)] at same
  exact_mod_cast same

/-- Forms of one number are read as one number. -/
theorem ofScientific_congr {form other : Scientific} (negative : Bool)
    (same : form.value = other.value) :
    ofScientific negative form.coefficient form.exponent =
      ofScientific negative other.coefficient other.exponent := by
  by_cases zero : form.coefficient = 0
  · have zero' : other.coefficient = 0 := by
      rwa [← Scientific.value_eq_zero_iff, ← same, Scientific.value_eq_zero_iff]
    simp only [ofScientific, zero, zero', reduceIte]
  · have zero' : other.coefficient ≠ 0 := by
      rwa [ne_eq, ← Scientific.value_eq_zero_iff, ← same, Scientific.value_eq_zero_iff]
    simp only [ofScientific, zero, zero', reduceIte, magnitude_congr zero same,
      ofRatio_value negative same]

theorem value_expansion (significand : Nat) (exponent : Int) :
    (expansion significand exponent).value = significand * 2 ^ exponent := by
  -- The reduced denominator is a power of two, which five to as many places makes a power of ten.
  obtain ⟨j, le, common⟩ := (Nat.dvd_prime_pow Nat.prime_two).1
    (Nat.gcd_dvd_right significand (2 ^ (-exponent).toNat))
  have reduced : 2 ^ (-exponent).toNat / 2 ^ j = 2 ^ ((-exponent).toNat - j) :=
    Nat.pow_div le (by decide)
  obtain ⟨q, whole⟩ : 2 ^ j ∣ significand * 2 ^ exponent.toNat :=
    common ▸ Nat.dvd_mul_right_of_dvd (Nat.gcd_dvd_left _ _) _
  have divided : significand * 2 ^ exponent.toNat / 2 ^ j = q := by
    rw [whole, Nat.mul_div_cancel_left q (Nat.pow_pos (by decide))]
  have numerator : (significand : ℚ) * 2 ^ exponent.toNat = 2 ^ j * q := by exact_mod_cast whole
  have denominator : (2 : ℚ) ^ (-exponent).toNat = 2 ^ j * 2 ^ ((-exponent).toNat - j) := by
    rw [← pow_add, Nat.add_sub_cancel' le]
  simp only [expansion, Scientific.value, common, reduced, Nat.log2_two_pow, divided]
  generalize (-exponent).toNat - j = places at denominator ⊢
  have ten : (10 : ℚ) ^ places = 2 ^ places * 5 ^ places := by rw [← mul_pow]; norm_num
  rw [zpow_split 2, mul_div_assoc', numerator, denominator, zpow_neg, zpow_natCast, ten]
  push_cast
  field_simp

variable {significand : Nat} {exponent : Int}

/-- The bounds of all numbers, as powers of ten. -/
theorem canonical_bounds (canonical : Canonical significand exponent) (nonzero : significand ≠ 0) :
    (10 : ℚ) ^ (-331 : Int) ≤ significand * 2 ^ exponent ∧
      (significand : ℚ) * 2 ^ exponent < 10 ^ (310 : Int) := by
  obtain ⟨small, least, most, _⟩ := canonical
  have one : (1 : ℚ) ≤ significand := by exact_mod_cast Nat.one_le_iff_ne_zero.2 nonzero
  have bits : (significand : ℚ) < 2 ^ (53 : Int) := by
    have : 2 * leadingBit = 2 ^ 53 := by decide
    exact_mod_cast this ▸ small
  have least' : (2 : ℚ) ^ 1074 ≤ 10 ^ 331 := by
    have : 2 ^ 1074 ≤ 10 ^ 331 := by decide +kernel
    exact_mod_cast this
  have most' : (2 : ℚ) ^ 53 * 2 ^ 971 ≤ 10 ^ 310 := by
    have : 2 ^ 53 * 2 ^ 971 ≤ 10 ^ 310 := by decide +kernel
    exact_mod_cast this
  constructor
  · calc (10 : ℚ) ^ (-331 : Int) ≤ 2 ^ (-1074 : Int) := by
          rw [zpow_neg, zpow_neg]
          exact inv_anti₀ (by positivity) least'
      _ ≤ 2 ^ exponent := zpow_le_zpow_right₀ (by norm_num) least
      _ ≤ significand * 2 ^ exponent := le_mul_of_one_le_left (by positivity) one
  · calc (significand : ℚ) * 2 ^ exponent < 2 ^ (53 : Int) * 2 ^ exponent := by gcongr
      _ ≤ 2 ^ (53 : Int) * 2 ^ (971 : Int) :=
        mul_le_mul_of_nonneg_left (zpow_le_zpow_right₀ one_le_two most) (by positivity)
      _ ≤ 10 ^ (310 : Int) := most'

/-- Only what is far beyond either end of the range is settled by its magnitude. -/
theorem ofScientific_ratio (negative : Bool) {form : Scientific} (nonzero : form.coefficient ≠ 0)
    (low : 10 ^ (-331 : Int) ≤ form.value) (high : form.value < 10 ^ (310 : Int)) :
    ofScientific negative form.coefficient form.exponent =
      ofRatio negative (form.coefficient * 10 ^ form.exponent.toNat)
        (10 ^ (-form.exponent).toNat) := by
  have top := (Decimal.lt_zpow_iff nonzero).1 high
  have bottom : ¬ form.exponent + Digits.width form.coefficient ≤ -331 := by
    rw [← Decimal.lt_zpow_iff nonzero, not_lt]
    exact low
  have within : ¬ 310 < (Digits.width form.coefficient : Int) + form.exponent := by omega
  have within' : ¬ (Digits.width form.coefficient : Int) + form.exponent < -330 := by omega
  simp only [ofScientific, nonzero, within, within', reduceIte]

/-- The exact value of a number is read as the number. -/
theorem ofScientific_expansion (canonical : Canonical significand exponent)
    (nonzero : significand ≠ 0) :
    ofScientific false (expansion significand exponent).coefficient
        (expansion significand exponent).exponent = ofDyadic false significand exponent := by
  have value := value_expansion significand exponent
  have given : (expansion significand exponent).coefficient ≠ 0 := by
    rwa [ne_eq, expansion_eq_zero_iff]
  obtain ⟨low, high⟩ := canonical_bounds canonical nonzero
  rw [← value] at low high
  rw [ofScientific_ratio false given low high, ofDyadic]
  -- Only the value of the expansion matters from here on.
  generalize expansion significand exponent = form at value
  have positive : 10 ^ (-form.exponent).toNat ≠ 0 := Nat.ne_of_gt (Nat.pow_pos (by decide))
  have positive' : 2 ^ (-exponent).toNat ≠ 0 := Nat.ne_of_gt (Nat.pow_pos (by decide))
  refine ofRatio_congr false positive positive' ?_
  rw [Scientific.value_ratio, zpow_split 2, mul_div_assoc', div_eq_div_iff
    (by exact_mod_cast positive) (by positivity)] at value
  exact_mod_cast value

/-- The search ends with a form that reads as the number, or with its exact value. -/
theorem ofScientific_shortest (canonical : Canonical significand exponent)
    (nonzero : significand ≠ 0) :
    ofScientific false (shortest significand exponent).coefficient
        (shortest significand exponent).exponent =
      .finite false significand exponent canonical := by
  simp only [shortest, nonzero, reduceIte]
  rw [ofScientific_congr false (Scientific.value_trim _),
    ← ofDyadic_canonical false canonical nonzero]
  cases found : List.findSome? _ _ with
  | none => exact ofScientific_expansion canonical nonzero
  | some form =>
    obtain ⟨digits, _, here⟩ := List.exists_of_findSome?_eq_some found
    exact atPlace_reads here

theorem settle_true (significand : Nat) (exponent : Int) :
    settle true significand exponent = (settle false significand exponent).negate := by
  simp only [settle]
  split
  · rfl
  · split <;> rfl

theorem ofRatio_true (num den : Nat) : ofRatio true num den = (ofRatio false num den).negate := by
  simp only [ofRatio]
  split
  · rfl
  · exact settle_true _ _

theorem ofScientific_true (coefficient : Nat) (exponent : Int) :
    ofScientific true coefficient exponent = (ofScientific false coefficient exponent).negate := by
  simp only [ofScientific]
  split
  · rfl
  · split
    · rfl
    · split
      · rfl
      · exact ofRatio_true _ _

/-- The number is the nearest one to what its written form shows. -/
theorem ofScientific_shown (negative : Bool) (canonical : Canonical significand exponent) :
    ofScientific negative (Numeral.shown (shortest significand exponent)).coefficient
        (Numeral.shown (shortest significand exponent)).exponent =
      .finite negative significand exponent canonical := by
  have plain : ofScientific false (Numeral.shown (shortest significand exponent)).coefficient
      (Numeral.shown (shortest significand exponent)).exponent =
        .finite false significand exponent canonical := by
    rw [ofScientific_congr false (value_shown _)]
    by_cases zero : significand = 0
    · subst zero
      obtain rfl : exponent = -1074 := by
        obtain ⟨_, _, _, full | least⟩ := canonical
        · cases full
        · exact least
      rw [ofScientific, if_pos ((shortest_eq_zero_iff canonical).2 rfl)]
      rfl
    · exact ofScientific_shortest canonical zero
  cases negative with
  | false => exact plain
  | true => rw [ofScientific_true, plain]; rfl

end Binary64

/-- The written form of a number is read as the number. -/
theorem Literal.real?_text (x : Binary64) : Literal.real? x.text = some x := by
  cases x with
  | finite negative significand exponent canonical =>
    rw [Numeral.real?_text, Binary64.ofScientific_shown]
  | infinite negative => cases negative <;> rfl
  | nan => rfl

theorem Literal.real_text (x : Binary64) : Literal.real x.text = .ok x := by
  rw [Literal.real, Literal.real?_text]

end Reckon
