import Reckon.Binary64.Text

/-! The shortest form of a number. Rounding leaves the exact value of a number as it is, so a form
that reads back as the number is zero only when the number is. -/
namespace Reckon.Binary64
attribute [local instance (2000)] instPowNat

variable {significand : Nat} {exponent : Int}

theorem log2_shift (nonzero : n ≠ 0) (count : Nat) : (n * 2 ^ count).log2 = n.log2 + count := by
  have scale : 0 < 2 ^ count := Nat.pow_pos (by decide)
  rw [Nat.log2_eq_iff (Nat.mul_ne_zero nonzero (Nat.ne_of_gt scale))]
  constructor
  · rw [Nat.pow_add]
    exact Nat.mul_le_mul_right _ (Nat.log2_self_le nonzero)
  · rw [Nat.add_right_comm, Nat.pow_add]
    exact Nat.mul_lt_mul_of_pos_right Nat.lt_log2_self scale

theorem nearestEven_mul (n : Nat) (positive : 0 < den) : nearestEven (n * den) den = n := by
  have exactly : n * den / den = n := Nat.mul_div_cancel n positive
  simp only [nearestEven, Nat.mul_mod_left, exactly, Nat.mul_zero, positive, reduceIte]

theorem binade_dyadic (nonzero : significand ≠ 0) (exponent : Int) :
    binade (significand * 2 ^ exponent.toNat) (2 ^ (-exponent).toNat) =
      significand.log2 + exponent := by
  have guess : ((significand * 2 ^ exponent.toNat).log2 : Int) - (2 ^ (-exponent).toNat).log2 =
      significand.log2 + exponent := by
    rw [log2_shift nonzero, Nat.log2_two_pow]
    omega
  have within : 2 ^ (-exponent).toNat * 2 ^ (significand.log2 + exponent : Int).toNat ≤
      significand * 2 ^ exponent.toNat * 2 ^ (-(significand.log2 + exponent : Int)).toNat := by
    calc 2 ^ (-exponent).toNat * 2 ^ (significand.log2 + exponent : Int).toNat
        = 2 ^ significand.log2 *
            (2 ^ exponent.toNat * 2 ^ (-(significand.log2 + exponent : Int)).toNat) := by
          simp only [← Nat.pow_add]
          congr 1
          omega
      _ ≤ significand * (2 ^ exponent.toNat * 2 ^ (-(significand.log2 + exponent : Int)).toNat) :=
          Nat.mul_le_mul_right _ (Nat.log2_self_le nonzero)
      _ = significand * 2 ^ exponent.toNat * 2 ^ (-(significand.log2 + exponent : Int)).toNat :=
          (Nat.mul_assoc _ _ _).symm
  simp only [binade, guess, within, reduceIte]

theorem lastPlace_dyadic (canonical : Canonical significand exponent) (nonzero : significand ≠ 0) :
    lastPlace (significand * 2 ^ exponent.toNat) (2 ^ (-exponent).toNat) = exponent := by
  obtain ⟨small, least, _, full⟩ := canonical
  have upper : significand.log2 < 53 := (Nat.log2_lt nonzero).2 small
  rw [lastPlace, binade_dyadic nonzero]
  rcases full with large | bottom
  · have lower : 52 ≤ significand.log2 := (Nat.le_log2 nonzero).2 large
    omega
  · omega

/-- A number is the nearest one to its own exact value. -/
theorem ofDyadic_canonical (negative : Bool) (canonical : Canonical significand exponent)
    (nonzero : significand ≠ 0) :
    ofDyadic negative significand exponent = .finite negative significand exponent canonical := by
  have given : significand * 2 ^ exponent.toNat ≠ 0 :=
    Nat.mul_ne_zero nonzero (Nat.ne_of_gt (Nat.pow_pos (by decide)))
  have exactly : significand * 2 ^ exponent.toNat * 2 ^ (-exponent).toNat =
      significand * (2 ^ (-exponent).toNat * 2 ^ exponent.toNat) := by
    rw [Nat.mul_assoc, Nat.mul_comm (2 ^ exponent.toNat)]
  have scale : 0 < 2 ^ (-exponent).toNat * 2 ^ exponent.toNat :=
    Nat.mul_pos (Nat.pow_pos (by decide)) (Nat.pow_pos (by decide))
  simp only [ofDyadic, ofRatio, given, reduceIte, lastPlace_dyadic canonical nonzero, exactly,
    nearestEven_mul _ scale, settle, canonical, reduceDIte]

/-- A form found at a place reads back as the number. -/
theorem atPlace_reads (found : atPlace x num den place = some form) :
    ofScientific false form.coefficient form.exponent = x := by
  simp only [atPlace] at found
  split at found
  case h_1 below above =>
    obtain rfl := Option.some.inj found
    dsimp only
    split
    · exact of_decide_eq_true above
    · exact of_decide_eq_true below
  case h_2 below _ =>
    obtain rfl := Option.some.inj found
    exact of_decide_eq_true below
  case h_3 _ above =>
    obtain rfl := Option.some.inj found
    exact of_decide_eq_true above
  case h_4 => cases found

theorem div_eq_zero_iff_of_dvd (divides : d ∣ n) : n / d = 0 ↔ n = 0 :=
  ⟨Nat.eq_zero_of_dvd_of_div_eq_zero divides, fun zero => by rw [zero, Nat.zero_div]⟩

theorem expansion_eq_zero_iff (significand : Nat) (exponent : Int) :
    (expansion significand exponent).coefficient = 0 ↔ significand = 0 := by
  have scale : 2 ^ exponent.toNat ≠ 0 := Nat.ne_of_gt (Nat.pow_pos (by decide))
  have whole : Nat.gcd significand (2 ^ (-exponent).toNat) ∣ significand * 2 ^ exponent.toNat :=
    Nat.dvd_mul_right_of_dvd (Nat.gcd_dvd_left _ _) _
  simp only [expansion, Nat.mul_eq_zero, div_eq_zero_iff_of_dvd whole, scale, or_false]
  simp

theorem Scientific.trim_eq_zero_iff (form : Scientific) :
    form.trim.coefficient = 0 ↔ form.coefficient = 0 := by
  simp only [Scientific.trim]
  split
  case isTrue zero => simp [zero]
  case isFalse => exact div_eq_zero_iff_of_dvd (Digits.pow_trailingZeros_dvd _)

theorem Scientific.positional_eq_zero_iff (form : Scientific) :
    form.positional.coefficient = 0 ↔ form.coefficient = 0 := by
  simp only [Scientific.positional]
  split
  · rfl
  · have scale : 10 ^ (form.exponent.toNat + 1) ≠ 0 := Nat.ne_of_gt (Nat.pow_pos (by decide))
    simp only [Nat.mul_eq_zero, scale, or_false]

/-- The shortest form of a number is zero only for zero. -/
theorem shortest_eq_zero_iff (canonical : Canonical significand exponent) :
    (shortest significand exponent).coefficient = 0 ↔ significand = 0 := by
  by_cases zero : significand = 0
  · simp only [shortest, zero, reduceIte, expansion_eq_zero_iff]
  · simp only [shortest, zero, reduceIte, Scientific.trim_eq_zero_iff, iff_false]
    cases found : List.findSome? _ _ with
    | none => simpa only [Option.getD_none, expansion_eq_zero_iff] using zero
    | some form =>
      obtain ⟨digits, _, here⟩ := List.exists_of_findSome?_eq_some found
      have reads := atPlace_reads here
      rw [ofDyadic_canonical false canonical zero] at reads
      intro none
      rw [Option.getD_some] at none
      rw [none] at reads
      exact zero (Binary64.finite.inj reads).2.1.symm

end Reckon.Binary64
