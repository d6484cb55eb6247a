import Mathlib.Data.Nat.Cast.Field
import Reckon.Proofs.Exactness

/-! Quotients of decimals. The division rounds towards zero, and so does the cut that follows it; as
long as the division keeps the fraction digits asked for, the cut of its result is the cut of
the exact quotient. -/
namespace Reckon

namespace Decimal
open Digits (signed width)

variable {m n precision : Nat} {e f digits places : Int} {p q r : ℚ}

theorem chop_of_nonneg (nonneg : 0 ≤ q) (places : Int) :
    chop places q = ⌊q * 10 ^ places⌋ / 10 ^ places := by
  rw [chop, if_pos nonneg]

theorem chop_nonneg (nonneg : 0 ≤ q) (places : Int) : 0 ≤ chop places q := by
  have whole : 0 ≤ ⌊q * 10 ^ places⌋ := Int.floor_nonneg.2 (by positivity)
  have cast : (0 : ℚ) ≤ ⌊q * 10 ^ places⌋ := by exact_mod_cast whole
  rw [chop_of_nonneg nonneg]
  positivity

/-- Digits that are chopped off anyway may be chopped off before. -/
theorem chop_chop (le : digits ≤ places) (q : ℚ) : chop digits (chop places q) = chop digits q := by
  have scale : (10 : ℚ) ^ places = ((10 ^ (places - digits).toNat : Nat) : ℚ) * 10 ^ digits := by
    rw [Nat.cast_pow, Nat.cast_ofNat, ten_pow_toNat (by omega), ← ten_zpow_add, sub_add_cancel]
  have rescale (x : ℚ) :
      x / 10 ^ places * 10 ^ digits = x / (10 ^ (places - digits).toNat : Nat) := by
    rw [scale, div_mul_eq_div_div, div_mul_cancel₀ _ (ten_zpow_pos digits).ne']
  -- Of a positive number both cuts are floors, and floors of whole fractions compose.
  have upward (q : ℚ) (nonneg : 0 ≤ q) : chop digits (chop places q) = chop digits q := by
    rw [chop_of_nonneg (chop_nonneg nonneg places), chop_of_nonneg nonneg places,
      chop_of_nonneg nonneg digits, rescale, Int.floor_div_natCast, Int.floor_intCast,
      ← Int.floor_div_natCast, ← rescale, mul_div_cancel_right₀ _ (ten_zpow_pos places).ne']
  rcases le_total 0 q with nonneg | nonpos
  · exact upward q nonneg
  · have flipped := upward (-q) (neg_nonneg.2 nonpos)
    simpa only [chop_neg, neg_inj] using flipped

theorem abs_chop_le (places : Int) (q : ℚ) : |chop places q| ≤ |q| := by
  have upward (q : ℚ) (nonneg : 0 ≤ q) : |chop places q| ≤ |q| := by
    rw [abs_of_nonneg (chop_nonneg nonneg places), abs_of_nonneg nonneg, chop_of_nonneg nonneg,
      div_le_iff₀ (ten_zpow_pos places)]
    exact Int.floor_le _
  rcases le_total 0 q with nonneg | nonpos
  · exact upward q nonneg
  · simpa only [chop_neg, abs_neg] using upward (-q) (neg_nonneg.2 nonpos)

/-- A number that may stand for `q` where only so many fraction digits are kept. -/
structure Agrees (places : Int) (p q : ℚ) : Prop where
  bounded : |p| ≤ |q|
  same : chop places p = chop places q

theorem Agrees.refl (places : Int) (q : ℚ) : Agrees places q q := ⟨le_rfl, rfl⟩

theorem Agrees.trans (first : Agrees places p q) (second : Agrees places q r) :
    Agrees places p r :=
  ⟨first.bounded.trans second.bounded, first.same.trans second.same⟩

theorem chop_agrees (le : digits ≤ places) (q : ℚ) : Agrees digits (chop places q) q :=
  ⟨abs_chop_le places q, chop_chop le q⟩

/-- Fitting a number into a precision that reaches the fraction digits leaves them alone. -/
theorem fit_agrees (negative : Bool) (low : leastPlace precision ≤ -places)
    (room : (n : ℚ) * 10 ^ e < 10 ^ (precision - places))
    (high : (n : ℚ) * 10 ^ e < 10 ^ (maxExponent + 1)) :
    ∃ k f, fit precision negative n e = .ok (.finite negative k f) ∧
      Agrees places (value (.finite negative k f)) (value (.finite negative n e)) := by
  by_cases zero : n = 0
  · subst zero
    refine ⟨0, _, rfl, ?_⟩
    simpa only [value_signed, Nat.cast_zero, zero_mul] using Agrees.refl places _
  · have first := (lt_zpow_iff zero).1 room
    have top := (lt_zpow_iff zero).1 high
    have within : ¬ maxExponent < e + width n - 1 := by omega
    simp only [fit, zero, within, reduceIte]
    generalize reached : max (leastPlace precision) (e + width n - precision) = place
    split
    case isTrue below =>
      have dropped := drop_eq_floor n e place
      have whole : (e - place).toNat = 0 := by omega
      rw [whole, pow_zero, mul_one] at dropped
      refine ⟨_, _, rfl, ?_⟩
      have cut := value_chop negative n e (-place)
      rw [neg_neg, ← sub_eq_add_neg, ← dropped] at cut
      rw [cut]
      exact chop_agrees (by omega) _
    case isFalse => exact ⟨n, e, rfl, .refl places _⟩

theorem le_zpow (nonzero : n ≠ 0) (e : Int) : (10 : ℚ) ^ (e + width n - 1) ≤ n * 10 ^ e := by
  rw [← not_lt, lt_zpow_iff nonzero]
  omega

theorem value_eq_zero_iff (negative : Bool) (n : Nat) (e : Int) :
    value (.finite negative n e) = 0 ↔ n = 0 := by
  rw [← abs_eq_zero, abs_value]
  simp [(ten_zpow_pos e).ne']

theorem value_div (a b : Bool) (m n : Nat) (e f : Int) :
    value (.finite a m e) / value (.finite b n f) =
      if (a != b) = true then -((m : ℚ) / n * 10 ^ (e - f)) else (m : ℚ) / n * 10 ^ (e - f) := by
  have plain : (m : ℚ) * 10 ^ e / (n * 10 ^ f) = m / n * 10 ^ (e - f) := by
    rw [mul_div_mul_comm, ← zpow_sub₀ (by norm_num)]
  rw [value_signed, value_signed, ← plain]
  cases a <;> cases b <;> simp [neg_div, div_neg]

theorem abs_quotient (a b : Bool) (m n : Nat) (e f : Int) :
    |value (.finite a m e) / value (.finite b n f)| = (m : ℚ) / n * 10 ^ (e - f) := by
  have nonneg : (0 : ℚ) ≤ (m : ℚ) / n * 10 ^ (e - f) := by positivity
  rw [value_div]
  split
  · rw [abs_neg, abs_of_nonneg nonneg]
  · exact abs_of_nonneg nonneg

/-- The digits of two coefficients tell the magnitude of their quotient up to a factor of ten. -/
theorem quotient_lt (m : Nat) (nonzero : n ≠ 0) :
    (m : ℚ) / n < 10 ^ ((width m : Int) - width n + 1) := by
  have upper : (m : ℚ) < 10 ^ (width m : Int) := by
    rw [zpow_natCast]
    exact_mod_cast (Digits.width_le_iff (Digits.width_pos m)).1 le_rfl
  have lower := le_zpow nonzero 0
  rw [zpow_zero, mul_one] at lower
  rw [div_lt_iff₀ (by positivity)]
  calc (m : ℚ) < 10 ^ (width m : Int) := upper
    _ = 10 ^ ((width m : Int) - width n + 1) * 10 ^ (0 + (width n : Int) - 1) := by
      rw [← ten_zpow_add]; congr 1; omega
    _ ≤ 10 ^ ((width m : Int) - width n + 1) * n := by gcongr

theorem lt_quotient (nonzero : m ≠ 0) (n : Nat) (nonzero' : n ≠ 0) :
    (10 : ℚ) ^ ((width m : Int) - width n - 1) < m / n := by
  calc (10 : ℚ) ^ ((width m : Int) - width n - 1)
      = (10 ^ ((width n : Int) - width m + 1))⁻¹ := by rw [← zpow_neg]; congr 1; omega
    _ < ((n : ℚ) / m)⁻¹ := inv_strictAnti₀ (by positivity) (quotient_lt n nonzero)
    _ = m / n := inv_div _ _

/-- Zeros at the end of a coefficient may go into the exponent. -/
theorem value_shorten (negative : Bool) {count : Nat} (zeros : 10 ^ count ∣ n) (e : Int) :
    value (.finite negative (n / 10 ^ count) (e + count)) = value (.finite negative n e) := by
  obtain ⟨kept, rfl⟩ := zeros
  have same : (kept : ℚ) * 10 ^ (e + count) = (10 ^ count * kept : Nat) * 10 ^ e := by
    push_cast
    rw [ten_zpow_add, zpow_natCast]
    ring
  rw [Nat.mul_div_cancel_left kept (by positivity), value_signed, value_signed, same]

theorem scaled_quotient (m n : Nat) (shift : Int) :
    ((m * 10 ^ shift.toNat : Nat) : ℚ) / (n * 10 ^ (-shift).toNat : Nat) = m / n * 10 ^ shift := by
  push_cast
  rcases le_total 0 shift with up | down
  · have none : (-shift).toNat = 0 := by omega
    rw [none, pow_zero, mul_one, ten_pow_toNat up, mul_div_right_comm]
  · have none : shift.toNat = 0 := by omega
    rw [none, pow_zero, mul_one, ten_pow_toNat (by omega), zpow_neg, div_mul_eq_div_div,
      div_inv_eq_mul]

/-- Before it is fitted, the quotient has all the fraction digits asked for. -/
theorem quotient_fits (negative : Bool) (nonzero : m ≠ 0) (nonzero' : n ≠ 0)
    (room : (m : ℚ) / n * 10 ^ e < 10 ^ (precision - places)) :
    ∃ k f, quotient precision negative m n e = fit precision negative k f ∧
      Agrees places (value (.finite negative k f))
        (if negative then -((m : ℚ) / n * 10 ^ e) else (m : ℚ) / n * 10 ^ e) := by
  -- The bound on the quotient bounds its exponent, so the shift goes beyond the digits asked for.
  have reached : (width m : Int) - width n - 1 + e < precision - places := by
    rw [← zpow_lt_zpow_iff_right₀ (a := (10 : ℚ)) (by norm_num), ten_zpow_add]
    refine lt_trans ?_ room
    gcongr
    exact lt_quotient nonzero n nonzero'
  simp only [quotient]
  generalize given : (width n : Int) - width m + precision + 1 = shift
  have scaled := scaled_quotient m n shift
  generalize m * 10 ^ shift.toNat = num at scaled ⊢
  generalize n * 10 ^ (-shift).toNat = den at scaled ⊢
  split
  case isTrue exactly =>
    have whole : ((num / den : Nat) : ℚ) = m / n * 10 ^ shift := by
      rw [Nat.cast_div_charZero (Nat.dvd_of_mod_eq_zero exactly), scaled]
    have zeros : 10 ^ min (Digits.trailingZeros (num / den)) shift.toNat ∣ num / den :=
      (Nat.pow_dvd_pow 10 (Nat.min_le_left _ _)).trans (Digits.pow_trailingZeros_dvd _)
    refine ⟨_, _, rfl, ?_⟩
    rw [value_shorten negative zeros, value_signed, whole, mul_assoc, ← ten_zpow_add,
      add_sub_cancel]
    exact .refl places _
  case isFalse =>
    have whole : num / den = ⌊(m : ℚ) / n * 10 ^ e * 10 ^ (shift - e)⌋₊ := by
      rw [mul_assoc, ← ten_zpow_add, add_sub_cancel, ← scaled, Nat.floor_div_eq_div]
    have kept := value_floor negative (q := (m : ℚ) / n * 10 ^ e) (by positivity) (shift - e)
    rw [← whole, neg_sub] at kept
    refine ⟨_, _, rfl, ?_⟩
    rw [kept]
    exact chop_agrees (by omega) _

theorem exists_finite {x : Decimal} (finite : x.isFinite = true) :
    ∃ negative n e, x = .finite negative n e := by
  cases x with
  | finite negative n e => exact ⟨negative, n, e, rfl⟩
  | infinite negative => cases finite
  | nan negative signaling payload => cases finite

theorem div_bounded {x y : Decimal} (finite : x.isFinite = true) (finite' : y.isFinite = true)
    (divisor : y.value ≠ 0) : |x.value / y.value| < 10 ^ (x.adjusted - y.adjusted + 1) := by
  obtain ⟨a, m, e, rfl⟩ := exists_finite finite
  obtain ⟨b, n, f, rfl⟩ := exists_finite finite'
  have nonzero : n ≠ 0 := by rwa [ne_eq, value_eq_zero_iff] at divisor
  have digits : adjusted (.finite a m e) - adjusted (.finite b n f) + 1 =
      (width m : Int) - width n + 1 + (e - f) := by
    simp only [adjusted]
    omega
  rw [abs_quotient, digits, ten_zpow_add]
  gcongr
  exact quotient_lt m nonzero

/-- A bounded quotient is divided without loss of the fraction digits asked for. -/
theorem div_agrees {x y : Decimal} (finite : x.isFinite = true) (finite' : y.isFinite = true)
    (divisor : y.value ≠ 0) (low : leastPlace precision ≤ -places)
    (room : |x.value / y.value| < 10 ^ (precision - places))
    (high : |x.value / y.value| < 10 ^ (maxExponent + 1)) :
    ∃ negative n e, div precision x y = .ok (.finite negative n e) ∧
      Agrees places (value (.finite negative n e)) (x.value / y.value) := by
  obtain ⟨a, m, e, rfl⟩ := exists_finite finite
  obtain ⟨b, n, f, rfl⟩ := exists_finite finite'
  have nonzero' : n ≠ 0 := by rwa [ne_eq, value_eq_zero_iff] at divisor
  simp only [div, nanResult?, Option.getD_none, nonzero', reduceIte]
  split
  case isTrue zero =>
    subst zero
    refine ⟨_, _, _, rfl, ?_⟩
    have none (c : Bool) (g : Int) : value (.finite c 0 g) = 0 := (value_eq_zero_iff c 0 g).2 rfl
    rw [none, none, zero_div]
    exact .refl places 0
  case isFalse nonzero =>
    have magnitude := abs_quotient a b m n e f
    rw [magnitude] at room high
    obtain ⟨k, g, fits, agrees⟩ := quotient_fits (a != b) nonzero nonzero' room
    rw [← value_div] at agrees
    have bounded := agrees.bounded
    rw [abs_value, magnitude] at bounded
    obtain ⟨l, h, fitted, agrees'⟩ :=
      fit_agrees (a != b) low (bounded.trans_lt room) (bounded.trans_lt high)
    exact ⟨a != b, l, h, fits.trans fitted, agrees'.trans agrees⟩

end Decimal
end Reckon
