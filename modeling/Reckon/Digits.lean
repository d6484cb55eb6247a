/-! Decimal digits of natural numbers: how many there are and how many zeros end them. Both are
found by halving, from chunks of `2 ^ i` digits downwards, so that a number of a million digits
takes twenty steps. -/
namespace Reckon.Digits
-- Powers are those of the core library, whatever other instances are in scope.
attribute [local instance (2000)] instPowNat

/-- The number of digits that the level `i` looks at together. -/
def chunk (i : Nat) : Nat := 2 ^ i

/-- The number of digits of a number below `10 ^ chunk i`. -/
def widthBelow : Nat → Nat → Nat
  | 0, _ => 1
  | i + 1, n =>
    if n < 10 ^ chunk i then widthBelow i n else chunk i + widthBelow i (n / 10 ^ chunk i)

/-- A level at which `n` is below `10 ^ chunk level`. -/
def level (n : Nat) : Nat := n.log2.log2 + 1

/-- The number of decimal digits; zero has one. -/
def width (n : Nat) : Nat := widthBelow (level n) n

/-- The number of zeros at the end of a positive number below `10 ^ chunk i`. -/
def trailingBelow : Nat → Nat → Nat
  | 0, _ => 0
  | i + 1, n =>
    if n % 10 ^ chunk i = 0 then chunk i + trailingBelow i (n / 10 ^ chunk i)
    else trailingBelow i n

/-- The number of zeros at the end of a positive number. -/
def trailingZeros (n : Nat) : Nat := trailingBelow (level n) n

/-- `n` or its negative. -/
def signed (negative : Bool) (n : Nat) : Int := if negative then -n else n

/-- `n` without its last `count` digits. -/
def drop (n count : Nat) : Nat := if width n ≤ count then 0 else n / 10 ^ count

def ofNat (n : Nat) : List Char := Nat.toDigits 10 n

def ofInt (n : Int) : List Char := if n < 0 then '-' :: ofNat n.natAbs else ofNat n.natAbs

/-- The digits with a point before the last `places` of them and zeros in front where it takes
them; no point when there are no places. -/
def pointed (n places : Nat) : List Char :=
  let all := ofNat n
  let padded := List.replicate (places + 1 - all.length) '0' ++ all
  let whole := padded.length - places
  if places = 0 then padded else padded.take whole ++ '.' :: padded.drop whole

theorem lt_level (n : Nat) : n < 10 ^ chunk (level n) := by
  have outer : n.log2 < chunk (level n) := Nat.lt_log2_self
  have inner : n < 2 ^ (n.log2 + 1) := Nat.lt_log2_self
  calc n < 2 ^ (n.log2 + 1) := inner
    _ ≤ 2 ^ chunk (level n) := Nat.pow_le_pow_right (by decide) outer
    _ ≤ 10 ^ chunk (level n) := Nat.pow_le_pow_left (by decide) _

theorem widthBelow_pos (i n : Nat) : 0 < widthBelow i n := by
  induction i generalizing n with
  | zero => simp [widthBelow]
  | succ i ih =>
    unfold widthBelow
    split
    · exact ih n
    · exact Nat.lt_of_lt_of_le (ih _) (Nat.le_add_left _ _)

theorem width_pos (n : Nat) : 0 < width n := widthBelow_pos _ _

theorem widthBelow_le_iff {i n k : Nat} (below : n < 10 ^ chunk i) (pos : 0 < k) :
    widthBelow i n ≤ k ↔ n < 10 ^ k := by
  induction i generalizing n k with
  | zero =>
    have : 10 ^ chunk 0 ≤ 10 ^ k := Nat.pow_le_pow_right (by decide) pos
    simp only [widthBelow]
    omega
  | succ i ih =>
    unfold widthBelow
    split
    case isTrue small => exact ih small pos
    case isFalse large =>
      have scale : 0 < 10 ^ chunk i := Nat.pow_pos (by decide)
      have below' : n / 10 ^ chunk i < 10 ^ chunk i := by
        rw [Nat.div_lt_iff_lt_mul scale, ← Nat.pow_add, ← Nat.mul_two]
        exact below
      by_cases h : chunk i < k
      · have := ih below' (k := k - chunk i) (by omega)
        rw [Nat.div_lt_iff_lt_mul scale, ← Nat.pow_add, Nat.sub_add_cancel (by omega)] at this
        rw [← this]
        omega
      · have := widthBelow_pos i (n / 10 ^ chunk i)
        have := Nat.pow_le_pow_right (n := 10) (by decide) (Nat.le_of_not_lt h)
        omega

/-- A number has at most `k` digits exactly when it is below `10 ^ k`. -/
theorem width_le_iff {n k : Nat} (pos : 0 < k) : width n ≤ k ↔ n < 10 ^ k :=
  widthBelow_le_iff (lt_level n) pos

theorem drop_eq_div (n count : Nat) : drop n count = n / 10 ^ count := by
  unfold drop
  split
  case isTrue h =>
    have pos := Nat.lt_of_lt_of_le (width_pos n) h
    exact (Nat.div_eq_of_lt ((width_le_iff pos).1 h)).symm
  case isFalse => rfl

theorem pow_trailingBelow_dvd (i n : Nat) : 10 ^ trailingBelow i n ∣ n := by
  induction i generalizing n with
  | zero => exact Nat.one_dvd n
  | succ i ih =>
    unfold trailingBelow
    split
    case isTrue whole =>
      rw [Nat.pow_add]
      exact Nat.mul_dvd_of_dvd_div (Nat.dvd_of_mod_eq_zero whole) (ih _)
    case isFalse => exact ih n

/-- A number can be shortened by the zeros at its end. -/
theorem pow_trailingZeros_dvd (n : Nat) : 10 ^ trailingZeros n ∣ n :=
  pow_trailingBelow_dvd (level n) n

end Reckon.Digits
