import Reckon.Binary64.Basic
import Reckon.Word

/-! Whole numbers as floating-point numbers. One of at most 53 bits is shifted until its first bit
is the leading one, and nothing is rounded. -/
namespace Reckon.Binary64
attribute [local instance (2000)] instPowNat

theorem nearestEven_one (n : Nat) : nearestEven n 1 = n := by
  simp [nearestEven, Nat.mod_one]

theorem binade_one (pos : 0 < n) : binade n 1 = n.log2 := by
  have below : 2 ^ n.log2 ≤ n := Nat.log2_self_le (Nat.ne_of_gt pos)
  have one : Nat.log2 1 = 0 := by decide
  have up : (-(n.log2 : Int)).toNat = 0 := by omega
  simp only [binade, one, Int.natCast_zero, Int.sub_zero, Int.toNat_natCast, up, Nat.one_mul,
    Nat.pow_zero, Nat.mul_one, below, reduceIte]

theorem canonical_shift (pos : 0 < n) (small : n.log2 ≤ 52) :
    Canonical (n * 2 ^ (52 - n.log2)) (n.log2 - 52) := by
  have below : 2 ^ n.log2 ≤ n := Nat.log2_self_le (Nat.ne_of_gt pos)
  have above : n < 2 ^ (n.log2 + 1) := Nat.lt_log2_self
  have scale : 0 < 2 ^ (52 - n.log2) := Nat.pow_pos (by decide)
  refine ⟨?_, by omega, by omega, .inl ?_⟩
  · calc n * 2 ^ (52 - n.log2) < 2 ^ (n.log2 + 1) * 2 ^ (52 - n.log2) :=
          Nat.mul_lt_mul_of_pos_right above scale
      _ = 2 ^ 53 := by rw [← Nat.pow_add]; congr 1; omega
      _ = 2 * leadingBit := by decide
  · calc leadingBit = 2 ^ 52 := by decide
      _ = 2 ^ n.log2 * 2 ^ (52 - n.log2) := by rw [← Nat.pow_add]; congr 1; omega
      _ ≤ n * 2 ^ (52 - n.log2) := Nat.mul_le_mul_right _ below

theorem ofRatio_one (negative : Bool) (pos : 0 < n) (small : n.log2 ≤ 52) :
    ofRatio negative n 1 = .finite negative (n * 2 ^ (52 - n.log2)) (n.log2 - 52)
      (canonical_shift pos small) := by
  have place : lastPlace n 1 = (n.log2 : Int) - 52 := by
    rw [lastPlace, binade_one pos]
    omega
  have up : (-((n.log2 : Int) - 52)).toNat = 52 - n.log2 := by omega
  have down : ((n.log2 : Int) - 52).toNat = 0 := by omega
  simp only [ofRatio, Nat.ne_of_gt pos, reduceIte, place, up, down, Nat.pow_zero, Nat.mul_one,
    nearestEven_one, settle, canonical_shift pos small, reduceDIte]

theorem ofInt_finite (fits : Word.fits n = true) : (ofInt n).isFinite = true := by
  obtain ⟨low, high⟩ := Word.fits_iff.1 fits
  have bound : Word.bound = 2147483648 := rfl
  by_cases zero : n.natAbs = 0
  · simp only [ofInt, ofRatio, zero, reduceIte]
    rfl
  · have small : n.natAbs.log2 < 53 := (Nat.log2_lt zero).2 (by omega)
    rw [ofInt, ofRatio_one _ (Nat.pos_of_ne_zero zero) (by omega)]
    rfl

end Reckon.Binary64
