import Reckon.Proofs.Kinds
import Reckon.Proofs.ReadBack

/-! How far rounding goes. The nearest binary number is off by half a unit of its last bit at most,
and half a unit of the last digit is what a number may change by when it is rounded to so many
digits. Up to fifteen digits the second step undoes the first. -/
namespace Reckon

/-- Off by no more than half a unit of the last of 53 bits. -/
def Near (x r : ℚ) : Prop := |x - r| ≤ r / 2 ^ 53

namespace Binary64
attribute [local instance (2000)] instPowNat

variable {num den n : Nat} {place : Int}

theorem nearestEven_bounds (num : Nat) (positive : 0 < den) :
    2 * (nearestEven num den * den) ≤ 2 * num + den ∧
      2 * num ≤ 2 * (nearestEven num den * den) + den := by
  have whole : num / den * den + num % den = num := Nat.div_add_mod' num den
  have less : num % den < den := Nat.mod_lt num positive
  simp only [nearestEven]
  split
  case isTrue low => omega
  case isFalse low =>
    split
    case isTrue high =>
      rw [Nat.add_mul, Nat.one_mul]
      omega
    case isFalse high =>
      rcases Nat.mod_two_eq_zero_or_one (num / den) with even | odd
      · rw [even, Nat.add_zero]
        omega
      · rw [odd, Nat.add_mul, Nat.one_mul]
        omega

theorem nearestEven_near (num : Nat) (positive : 0 < den) :
    |(nearestEven num den : ℚ) - num / den| ≤ 1 / 2 := by
  obtain ⟨above, below⟩ := nearestEven_bounds num positive
  have positive : (0 : ℚ) < den := by exact_mod_cast positive
  have above : 2 * ((nearestEven num den : ℚ) * den) ≤ 2 * num + den := by exact_mod_cast above
  have below : 2 * (num : ℚ) ≤ 2 * (nearestEven num den * den) + den := by exact_mod_cast below
  have scaled : (nearestEven num den : ℚ) - num / den =
      (nearestEven num den * den - num) / den := by field_simp
  rw [scaled, abs_div, abs_of_pos positive, div_le_iff₀ positive, abs_le]
  constructor <;> linarith

/-- Up to the next power of two, which takes a place more, the number is kept. -/
theorem settle_value (negative : Bool) (low : leadingBit ≤ n) (high : n ≤ 2 * leadingBit)
    (least : -1074 ≤ place) (most : place ≤ 970) :
    ∃ significand exponent canonical,
      settle negative n place = .finite negative significand exponent canonical ∧
        (significand : ℚ) * 2 ^ exponent = n * 2 ^ place := by
  have bit : leadingBit = 4503599627370496 := rfl
  by_cases room : n < 2 * leadingBit
  · have canonical : Canonical n place := ⟨room, least, by omega, .inl low⟩
    exact ⟨n, place, canonical, by simp only [settle, canonical, reduceDIte], rfl⟩
  · obtain rfl : n = 2 * leadingBit := by omega
    have full : ¬ Canonical (2 * leadingBit) place := fun canonical => room canonical.1
    have half : 2 * leadingBit / 2 = leadingBit := by omega
    have canonical : Canonical leadingBit (place + 1) :=
      ⟨by omega, by omega, by omega, .inl (Nat.le_refl _)⟩
    refine ⟨leadingBit, place + 1, canonical, ?_, ?_⟩
    · simp only [settle, full, half, canonical, reduceDIte]
    · push_cast
      rw [zpow_add_one₀ two_ne_zero]
      ring

/-- In units of its last place a ratio has 53 bits before the point. -/
theorem scaled_bounds {r : ℚ} (positive : 0 < r) (place : Int) (last : Int.log 2 r = place + 52) :
    2 ^ 52 ≤ r / 2 ^ place ∧ r / 2 ^ place < 2 ^ 53 := by
  have lower : (2 : ℚ) ^ (place + 52) ≤ r := by
    exact_mod_cast last ▸ Int.zpow_log_le_self (b := 2) (by norm_num) positive
  have upper : r < 2 ^ (place + 53) := by
    have : place + 53 = Int.log 2 r + 1 := by omega
    exact_mod_cast this ▸ Int.lt_zpow_succ_log_self (b := 2) (by norm_num) r
  have unit : (0 : ℚ) < 2 ^ place := by positivity
  rw [zpow_add₀ two_ne_zero, mul_comm] at lower upper
  constructor
  · rw [le_div_iff₀ unit]
    exact_mod_cast lower
  · rw [div_lt_iff₀ unit]
    exact_mod_cast upper

/-- A number of such units that is nearest to the ratio is near it. -/
theorem near_of_scaled {r : ℚ} (low : 2 ^ 52 ≤ r / 2 ^ place)
    (nearest : |(n : ℚ) - r / 2 ^ place| ≤ 1 / 2) : Near (n * 2 ^ place) r := by
  have unit : (0 : ℚ) < 2 ^ place := by positivity
  have off : (n : ℚ) * 2 ^ place - r = (n - r / 2 ^ place) * 2 ^ place := by field_simp
  rw [le_div_iff₀ unit] at low
  calc |(n : ℚ) * 2 ^ place - r|
      = |(n : ℚ) - r / 2 ^ place| * 2 ^ place := by rw [off, abs_mul, abs_of_pos unit]
    _ ≤ 1 / 2 * 2 ^ place := by gcongr
    _ ≤ r / 2 ^ 53 := by
      rw [le_div_iff₀ (by positivity)]
      linarith

/-- A ratio within the range of full significands is rounded to a number near it. -/
theorem ofRatio_near (negative : Bool) (nonzero : num ≠ 0) (nonzero' : den ≠ 0)
    (low : (2 : ℚ) ^ (-1022 : Int) ≤ num / den) (high : (num : ℚ) / den < 2 ^ (1022 : Int)) :
    ∃ significand exponent canonical,
      ofRatio negative num den = .finite negative significand exponent canonical ∧
        Near (significand * 2 ^ exponent) (num / den) := by
  have positive : (0 : ℚ) < num / den := by positivity
  have binade := binade_eq_log nonzero nonzero'
  have least : -1022 ≤ Int.log 2 ((num : ℚ) / den) := by
    rw [← Int.zpow_le_iff_le_log (by norm_num) positive]
    exact_mod_cast low
  have most : Int.log 2 ((num : ℚ) / den) < 1022 := by
    rw [← Int.lt_zpow_iff_log_lt (by norm_num) positive]
    exact_mod_cast high
  obtain ⟨place, last⟩ : ∃ place, Int.log 2 ((num : ℚ) / den) = place + 52 :=
    ⟨Int.log 2 ((num : ℚ) / den) - 52, by omega⟩
  have reached : lastPlace num den = place := by
    rw [lastPlace, binade]
    omega
  have scaled : ((num * 2 ^ (-place).toNat : Nat) : ℚ) / (den * 2 ^ place.toNat : Nat) =
      num / den / 2 ^ place := by
    rw [zpow_split 2 place]
    push_cast
    field_simp
  have scale : 0 < den * 2 ^ place.toNat :=
    Nat.mul_pos (Nat.pos_of_ne_zero nonzero') (Nat.two_pow_pos _)
  have nearest := nearestEven_near (num * 2 ^ (-place).toNat) scale
  obtain ⟨lower, upper⟩ := scaled_bounds positive place last
  rw [scaled] at nearest
  simp only [ofRatio, nonzero, reduceIte, reached]
  generalize nearestEven (num * 2 ^ (-place).toNat) (den * 2 ^ place.toNat) = n at nearest ⊢
  obtain ⟨below, above⟩ := abs_le.1 nearest
  have bit : leadingBit = 2 ^ 52 := rfl
  have enough : leadingBit ≤ n := by
    have : (2 : ℚ) ^ 52 < n + 1 := by linarith
    rw [bit, ← Nat.lt_add_one_iff]
    exact_mod_cast this
  have few : n ≤ 2 * leadingBit := by
    have : (n : ℚ) < 2 * 2 ^ 52 + 1 := by linarith
    rw [bit, ← Nat.lt_add_one_iff]
    exact_mod_cast this
  have bottom : -1074 ≤ place := by omega
  have top : place ≤ 970 := by omega
  obtain ⟨significand, exponent, canonical, settled, same⟩ :=
    settle_value negative enough few bottom top
  exact ⟨significand, exponent, canonical, settled, same ▸ near_of_scaled lower nearest⟩

/-- Zero, or within reach of both ends of the range. -/
def Moderate (r : ℚ) : Prop := r = 0 ∨ 10 ^ (-300 : Int) ≤ r ∧ r ≤ 10 ^ (300 : Int)

theorem Moderate.within {r : ℚ} (moderate : Moderate r) (nonzero : r ≠ 0) :
    2 ^ (-1022 : Int) ≤ r ∧ r < 2 ^ (1022 : Int) := by
  obtain ⟨low, high⟩ := moderate.resolve_left nonzero
  have powers : (10 : ℚ) ^ (300 : Int) < 2 ^ (1022 : Int) := by
    have : 10 ^ 300 < 2 ^ 1022 := by decide +kernel
    exact_mod_cast this
  refine ⟨le_trans ?_ low, high.trans_lt powers⟩
  rw [zpow_neg, zpow_neg]
  exact inv_anti₀ (by positivity) powers.le

theorem ofScientific_near (negative : Bool) (form : Scientific) (moderate : Moderate form.value) :
    ∃ significand exponent canonical,
      ofScientific negative form.coefficient form.exponent =
          .finite negative significand exponent canonical ∧
        Near (significand * 2 ^ exponent) form.value := by
  by_cases zero : form.coefficient = 0
  · have none : form.value = 0 := form.value_eq_zero_iff.2 zero
    refine ⟨0, -1074, by decide, by simp [ofScientific, zero, Binary64.zero], ?_⟩
    simp [Near, none]
  · have nonzero : form.value ≠ 0 := mt form.value_eq_zero_iff.1 zero
    obtain ⟨low, high⟩ := moderate.resolve_left nonzero
    have low' : (10 : ℚ) ^ (-331 : Int) ≤ form.value :=
      le_trans (zpow_le_zpow_right₀ (by norm_num) (by norm_num)) low
    have high' : form.value < (10 : ℚ) ^ (310 : Int) :=
      high.trans_lt (zpow_lt_zpow_right₀ (by norm_num) (by norm_num))
    have scale : 10 ^ form.exponent.toNat ≠ 0 := Nat.ne_of_gt (Nat.pow_pos (by simp))
    have scale' : 10 ^ (-form.exponent).toNat ≠ 0 := Nat.ne_of_gt (Nat.pow_pos (by simp))
    obtain ⟨least, most⟩ := moderate.within nonzero
    rw [ofScientific_ratio negative zero low' high']
    rw [Scientific.value_ratio] at least most ⊢
    exact ofRatio_near negative (Nat.mul_ne_zero zero scale) scale' least most

end Binary64

namespace Decimal
attribute [local instance (2000)] instPowNat
open Digits (width)

variable {c d places : Nat} {e f : Int}

/-- Less than a unit apart, two multiples of the unit are one. -/
theorem eq_of_near {m n : Nat} {u : ℚ} (positive : 0 < u) (near : |(m : ℚ) * u - n * u| < u) :
    m = n := by
  rw [← sub_mul, abs_mul, abs_of_pos positive, mul_lt_iff_lt_one_left positive] at near
  have within : |(m : Int) - n| < 1 := by exact_mod_cast near
  have := Int.abs_lt_one_iff.1 within
  omega

theorem halfUp_bounds {extra : Nat} (given : extra ≠ 0) (c : Nat) :
    2 * ((c + 5 * 10 ^ (extra - 1)) / 10 ^ extra * 10 ^ extra) ≤ 2 * c + 10 ^ extra ∧
      2 * c ≤ 2 * ((c + 5 * 10 ^ (extra - 1)) / 10 ^ extra * 10 ^ extra) + 10 ^ extra := by
  have half := ten_pow_pred given
  have positive : 0 < 10 ^ extra := Nat.pow_pos (by simp)
  have whole := Nat.div_add_mod' (c + 5 * 10 ^ (extra - 1)) (10 ^ extra)
  have less := Nat.mod_lt (c + 5 * 10 ^ (extra - 1)) positive
  omega

theorem value_halfUp (positive : 0 < places) (given : width c - places ≠ 0) (e : Int) :
    value (halfUp places false c e) =
      ((c + 5 * 10 ^ (width c - places - 1)) / 10 ^ (width c - places) : Nat) *
        10 ^ (e + (width c - places : Nat)) := by
  have most := halfUp_le given
  simp only [halfUp, given, reduceIte]
  generalize (c + 5 * 10 ^ (width c - places - 1)) / 10 ^ (width c - places) = m at most ⊢
  have shown (k : Int) : value (.finite false m k) = m * 10 ^ k := value_signed false m k
  split
  case isTrue wide =>
    -- Rounded up to the next power of ten, it ends with the zero that it gives up.
    have full : m = 10 ^ places := by
      have : ¬ m < 10 ^ places := by
        rw [← Digits.width_le_iff positive]
        omega
      omega
    have zero : 10 ^ 1 ∣ m := full ▸ Nat.pow_dvd_pow 10 positive
    rw [← shown]
    exact value_shorten false zero _
  case isFalse => exact shown _

/-- Rounding gives a multiple of the unit of the last digit kept, half a unit off at most. -/
theorem halfUp_near (positive : 0 < places) (c : Nat) (e : Int) :
    ∃ m : Nat,
      value (halfUp places false c e) = m * 10 ^ (e + (width c - places : Nat)) ∧
      |(m : ℚ) * 10 ^ (e + (width c - places : Nat)) - c * 10 ^ e| ≤
        10 ^ (e + (width c - places : Nat)) / 2 := by
  by_cases none : width c - places = 0
  · refine ⟨c, ?_, ?_⟩
    · simp [halfUp, none, value_signed]
    · simp only [none, Nat.cast_zero, add_zero, sub_self, abs_zero]
      positivity
  · refine ⟨_, value_halfUp positive none e, ?_⟩
    obtain ⟨above, below⟩ := halfUp_bounds none c
    generalize (c + 5 * 10 ^ (width c - places - 1)) / 10 ^ (width c - places) = m
      at above below ⊢
    generalize width c - places = extra at above below ⊢
    have above : 2 * ((m : ℚ) * 10 ^ extra) ≤ 2 * c + 10 ^ extra := by exact_mod_cast above
    have below : 2 * (c : ℚ) ≤ 2 * (m * 10 ^ extra) + 10 ^ extra := by exact_mod_cast below
    have unit : (10 : ℚ) ^ (e + (extra : Int)) = 10 ^ extra * 10 ^ e := by
      rw [ten_zpow_add, zpow_natCast, mul_comm]
    rw [unit, ← mul_assoc, ← sub_mul, abs_mul, abs_of_pos (ten_zpow_pos e), mul_div_right_comm]
    gcongr
    rw [abs_le]
    constructor <;> linarith

/-- The coefficient that a smaller unit takes. -/
theorem scaled_zpow (n : Nat) (le : f ≤ e) :
    ((n * 10 ^ (e - f).toNat : Nat) : ℚ) * 10 ^ f = n * 10 ^ e := by
  push_cast
  rw [ten_pow_toNat (by omega), mul_assoc, ← ten_zpow_add, sub_add_cancel]

theorem lt_zpow_width (c : Nat) (e : Int) : (c : ℚ) * 10 ^ e < 10 ^ (e + width c) := by
  by_cases zero : c = 0
  · rw [zero, Nat.cast_zero, zero_mul]
    exact ten_zpow_pos _
  · exact (lt_zpow_iff zero).2 le_rfl

/-- Of a number of so few digits, a unit of the last one is more than a near number is off. -/
theorem near_lt {x : ℚ} (few : places ≤ 15) (small : d < 10 ^ places)
    (near : Near x (d * 10 ^ f)) : |x - d * 10 ^ f| < 10 ^ f := by
  have power : 10 ^ places ≤ 10 ^ 15 := Nat.pow_le_pow_right (by decide) few
  have bound : (d : ℚ) < 2 ^ 53 := by
    have : d < 2 ^ 53 := by omega
    exact_mod_cast this
  have unit := ten_zpow_pos f
  calc |x - d * 10 ^ f| ≤ d * 10 ^ f / 2 ^ 53 := near
    _ < 2 ^ 53 * 10 ^ f / 2 ^ 53 := by gcongr
    _ = 10 ^ f := by field_simp

/-- A number below so few digits of a unit is not half a unit off from one that it is near. -/
theorem near_lt_half {x r u : ℚ} (few : places ≤ 15) (small : x < 10 ^ places * u)
    (unit : 0 < u) (near : Near x r) : |x - r| < u / 2 := by
  have power : (10 : ℚ) ^ places ≤ 10 ^ 15 := pow_le_pow_right₀ (by norm_num) few
  obtain ⟨low, _⟩ := abs_le.1 near
  have within : x < 10 ^ 15 * u := small.trans_le (by gcongr)
  calc |x - r| ≤ r / 2 ^ 53 := near
    _ < u / 2 := by linarith

/-- A number of more digits is rounded to a unit no greater than that of the number it is near: else
its first digit would stand above all digits of the other. -/
theorem unit_le_of_near (given : width c - places ≠ 0) (positive : 0 < places)
    (few : places ≤ 15) (small : d < 10 ^ places) (near : Near (c * 10 ^ e) (d * 10 ^ f)) :
    e + (width c - places : Nat) ≤ f := by
  by_contra above
  have nonzero : c ≠ 0 := by
    rintro rfl
    rw [width_zero] at given
    omega
  have first : (10 : ℚ) ^ (places + f) ≤ c * 10 ^ e := by
    refine le_trans (zpow_le_zpow_right₀ (by norm_num) ?_) (le_zpow nonzero e)
    omega
  have few' : (d : ℚ) + 1 ≤ 10 ^ places := by exact_mod_cast small
  have room : ((d : ℚ) + 1) * 10 ^ f ≤ 10 ^ places * 10 ^ f := by gcongr
  have apart := (abs_lt.1 (near_lt few small near)).2
  rw [ten_zpow_add, zpow_natCast] at first
  linarith

/-- Up to fifteen digits, rounding finds the number of that many digits that it is near. -/
theorem halfUp_exact (positive : 0 < places) (few : places ≤ 15) (small : d < 10 ^ places)
    (near : Near (c * 10 ^ e) (d * 10 ^ f)) : value (halfUp places false c e) = d * 10 ^ f := by
  by_cases le : e + (width c - places : Nat) ≤ f
  · -- The number is a multiple of the unit that it is rounded to.
    obtain ⟨m, rounded, close⟩ := halfUp_near positive c e
    have below : (c : ℚ) * 10 ^ e < 10 ^ places * 10 ^ (e + (width c - places : Nat)) := by
      rw [← zpow_natCast, ← ten_zpow_add]
      refine (lt_zpow_width c e).trans_le (zpow_le_zpow_right₀ (by norm_num) ?_)
      omega
    rw [rounded]
    generalize e + ((width c - places : Nat) : Int) = place at le close below ⊢
    have half := near_lt_half few below (ten_zpow_pos place) near
    rw [← scaled_zpow d le] at half ⊢
    have same : m = d * 10 ^ (f - place).toNat := by
      apply eq_of_near (ten_zpow_pos place)
      calc |(m : ℚ) * 10 ^ place - (d * 10 ^ (f - place).toNat : Nat) * 10 ^ place|
          ≤ |(m : ℚ) * 10 ^ place - c * 10 ^ e| +
              |(c : ℚ) * 10 ^ e - (d * 10 ^ (f - place).toNat : Nat) * 10 ^ place| :=
            abs_sub_le _ _ _
        _ < 10 ^ place / 2 + 10 ^ place / 2 := add_lt_add_of_le_of_lt close half
        _ = 10 ^ place := add_halves _
    rw [same]
  · -- There is nothing to round off, and both are multiples of the smaller unit.
    have none : width c - places = 0 := by
      by_contra given
      exact le (unit_le_of_near given positive few small near)
    have whole : f ≤ e := by
      rw [none] at le
      omega
    have close := near_lt few small near
    rw [← scaled_zpow c whole] at close
    rw [halfUp, if_pos none, value_signed, if_neg Bool.false_ne_true, ← scaled_zpow c whole,
      eq_of_near (ten_zpow_pos f) close]

/-- A binary number near a number of at most fifteen digits is rounded to it. -/
theorem rounded_exact {significand : Nat} {exponent : Int}
    (canonical : Binary64.Canonical significand exponent) (positive : 0 < places)
    (few : places ≤ 15) (small : d < 10 ^ places)
    (near : Near (significand * 2 ^ exponent) (d * 10 ^ f)) :
    value (rounded places (.finite false significand exponent canonical)) = d * 10 ^ f := by
  rw [← Binary64.value_expansion] at near
  exact halfUp_exact positive few small near

end Decimal
end Reckon
